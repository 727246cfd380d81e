import Dissect.Proofs.Json.Stored
import Dissect.Proofs.Output.UnitFiles
import Dissect.Proofs.Partition.Described
import Dissect.Proofs.Reference.Resolution
import Mathlib.Data.List.Basic

namespace Dissect

/-- The groups under different keys hold together every element once, where each key has a group. -/
theorem flatMap_filter_perm {α κ : Type} [BEq κ] [LawfulBEq κ] (key : α → κ) {keys : List κ}
    (hkeys : keys.Nodup) {xs : List α} (hxs : ∀ x ∈ xs, key x ∈ keys) :
    (keys.flatMap fun k => xs.filter (key · == k)).Perm xs := by
  induction keys generalizing xs with
  | nil =>
      have hnone : xs = [] := List.eq_nil_iff_forall_not_mem.mpr fun x hx =>
        List.not_mem_nil (hxs x hx)
      rw [hnone]
      rfl
  | cons k rest ih =>
      obtain ⟨hk, hrest⟩ := List.nodup_cons.mp hkeys
      have hothers : ∀ x ∈ xs.filter (fun x => !(key x == k)), key x ∈ rest := by
        intro x hx
        obtain ⟨hmem, hne⟩ := List.mem_filter.mp hx
        exact (List.mem_cons.mp (hxs x hmem)).resolve_left fun heq => by simp [heq] at hne
      have hlater : (rest.flatMap fun k' => xs.filter (key · == k'))
          = rest.flatMap fun k' =>
            (xs.filter (fun x => !(key x == k))).filter (key · == k') := by
        refine List.flatMap_congr fun k' hk' => ?_
        rw [List.filter_filter]
        refine List.filter_congr fun x _ => ?_
        by_cases heq : key x = k'
        · have hne : k' ≠ k := fun h => hk (h ▸ hk')
          simp [heq, hne]
        · simp [heq]
      rw [List.flatMap_cons, hlater]
      exact ((ih hrest hothers).append_left _).trans (List.filter_append_perm _ xs)

def Placement.runFile (e : Placement) : String := Output.unitsName ++ "/" ++ e.file

/-- The record has these nodes, each a name with its files. -/
def Json.HasNodes (record : Json) (nodes : List (String × List String)) : Prop :=
  record.field? "nodes"
    = some (.arr (nodes.map fun n => .obj [("id", .str n.1), ("files", .texts n.2)]))

theorem Reference.IsNames.firstSeen {units : List SourceUnit} {nodes : List String}
    (h : IsNames units (units.map (·.name)) nodes) : FirstSeen (units.map (·.name)) nodes := by
  obtain ⟨own, others, rfl, hown, -, hothers⟩ := h.split
  have hnone : others = [] := List.eq_nil_iff_forall_not_mem.mpr fun k hk =>
    ((hothers k).mp hk).2 ((hothers k).mp hk).1
  rwa [hnone, List.append_nil]

namespace Output

/-- The nodes account for the files of all units: one node for each name, as first seen, with the
files of the units of that name in the order of the units; no file stands under two nodes or twice
under one, and none is left out. -/
structure AccountsFor (units : List SourceUnit) (entries : List Placement)
    (nodes : List (String × List String)) : Prop where
  names : FirstSeen (units.map (·.name)) (nodes.map Prod.fst)
  files : ∀ n ∈ nodes,
    n.2 = ((units.zip entries).filter (·.1.name == n.1)).map fun ue => ue.2.runFile
  all : (nodes.flatMap Prod.snd).Perm (entries.map Placement.runFile)
  once : (nodes.flatMap Prod.snd).Nodup

theorem runFile_injective {e e' : Placement} (h : e.runFile = e'.runFile) : e.file = e'.file := by
  have hlists := congrArg String.toList h
  simp only [Placement.runFile, String.toList_append] at hlists
  exact String.toList_inj.mp (List.append_cancel_left hlists)

namespace InStep

variable {units : List SourceUnit} {entries : List Placement}

theorem name_eq (h : InStep units entries) {ue : SourceUnit × Placement}
    (hue : ue ∈ units.zip entries) : ue.2.name = ue.1.name := by
  rw [((List.forall₂_iff_zip.mp h.entry).2 hue).1]
  rfl

theorem map_name (h : InStep units entries) : entries.map (·.name) = units.map (·.name) := by
  have hunits : (units.zip entries).map Prod.fst = units :=
    List.map_fst_zip (Nat.le_of_eq h.length_eq)
  calc entries.map (·.name)
      = (units.zip entries).map (fun ue => ue.2.name) := by
        conv_lhs => rw [← h.map_snd_zip]
        rw [List.map_map]
        rfl
    _ = (units.zip entries).map (fun ue => ue.1.name) :=
        List.map_congr_left fun ue hue => h.name_eq hue
    _ = units.map (·.name) := by
        conv_rhs => rw [← hunits]
        rw [List.map_map]
        rfl

theorem nodup_runFiles (h : InStep units entries) : (entries.map Placement.runFile).Nodup :=
  (List.Nodup.of_map _ h.files).map_on fun _ he _ he' hsame =>
    List.inj_on_of_nodup_map h.files he he' (runFile_injective hsame)

theorem map_filter_name (h : InStep units entries) (name : String) :
    (entries.filter (·.name == name)).map Placement.runFile
      = ((units.zip entries).filter (·.1.name == name)).map fun ue => ue.2.runFile := by
  conv_lhs => rw [← h.map_snd_zip]
  rw [List.filter_map, List.map_map]
  refine congrArg (List.map _) (List.filter_congr fun ue hue => ?_)
  rw [Function.comp_apply, h.name_eq hue]

end InStep

def nodesOf (g : ReferenceGraph) (entries : List Placement) : List (String × List String) :=
  g.nodes.map fun name => (name, ((filesByName entries).lookup name).getD [])

theorem hasNodes_toJson (g : ReferenceGraph) (entries : List Placement) :
    (g.toJson (filesByName entries)).HasNodes (nodesOf g entries) := by
  rw [Json.HasNodes, nodesOf, List.map_map]
  rfl

theorem lookup_filesByName {entries : List Placement} {name : String}
    (h : name ∈ entries.map (·.name)) :
    (filesByName entries).lookup name
      = some ((entries.filter (·.name == name)).map Placement.runFile) :=
  List.lookup_graph _ (mem_distinct.mpr h)

theorem accountsFor_nodesOf {units : List SourceUnit} {entries : List Placement}
    (h : InStep units entries) {g : ReferenceGraph}
    (hnodes : FirstSeen (units.map (·.name)) g.nodes) :
    AccountsFor units entries (nodesOf g entries) := by
  have hgroup : ∀ name ∈ g.nodes, ((filesByName entries).lookup name).getD []
      = (entries.filter (·.name == name)).map Placement.runFile := by
    intro name hname
    rw [lookup_filesByName, Option.getD_some]
    rw [h.map_name]
    exact (hnodes.mem_iff name).mp hname
  have hfiles : (nodesOf g entries).flatMap Prod.snd
      = (g.nodes.flatMap fun name => entries.filter (·.name == name)).map Placement.runFile := by
    rw [nodesOf, List.flatMap_map, List.map_flatMap]
    exact List.flatMap_congr hgroup
  have hall : ((nodesOf g entries).flatMap Prod.snd).Perm (entries.map Placement.runFile) := by
    rw [hfiles]
    refine (flatMap_filter_perm Placement.name hnodes.once fun e he => ?_).map _
    rw [hnodes.mem_iff, ← h.map_name]
    exact List.mem_map_of_mem he
  constructor
  · rw [nodesOf, List.map_map]
    exact (List.map_id g.nodes).symm ▸ hnodes
  · intro n hn
    obtain ⟨name, hname, rfl⟩ := List.mem_map.mp hn
    exact (hgroup name hname).trans (h.map_filter_name name)
  · exact hall
  · exact hall.nodup_iff.mpr h.nodup_runFiles

theorem plain_toJson (g : ReferenceGraph) (files : List (String × List String)) (room : Nat) :
    Json.Plain (room + 4) (g.toJson files) := by
  have hkeys : ["id", "files"].Nodup := by decide
  have hends : ["from", "to"].Nodup := by decide
  have hparts : ["nodes", "edges"].Nodup := by decide
  refine .obj hparts ?_
  simp only [List.forall_mem_cons, List.not_mem_nil, false_implies, implies_true, and_true]
  refine ⟨.arr fun v hv => ?_, .arr fun v hv => ?_⟩
  · obtain ⟨name, -, rfl⟩ := List.mem_map.mp hv
    refine .obj hkeys ?_
    simp only [List.forall_mem_cons, List.not_mem_nil, false_implies, implies_true, and_true]
    refine ⟨.str _ _, .arr fun w hw => ?_⟩
    obtain ⟨s, -, rfl⟩ := List.mem_map.mp hw
    exact .str _ _
  · obtain ⟨e, -, rfl⟩ := List.mem_map.mp hv
    refine .obj hends ?_
    simp only [List.forall_mem_cons, List.not_mem_nil, false_implies, implies_true, and_true]
    exact ⟨.str _ _, .str _ _⟩

/-- The file of a run's graph holds a record that accounts for the files of all units. -/
theorem graphFile_accountsFor {parse parse' : Syntax.Parser} {strict : Bool} {source : Bytes}
    {file : String} {p : Partition} (hsplit : Partition.split parse strict source file = .ok p)
    {g : ReferenceGraph} (hgraph : Reference.graphOf parse' p.units none = .ok g) {σ : Type}
    (calls : Plan.Handler Call σ) {s : Store} {w : Surroundings σ} {files : FileTree}
    (hwrite : w.files.write s.graphPath
      (Text.Utf8.encode (g.toJson (filesByName p.entries)).indented) = (files, .ok ()))
    (time : Float) :
    Runner.carry calls (Runner.putText s.graphPath (g.toJson (filesByName p.entries)).indented)
        time w = ⟨.done (.ok ⟨⟩), time + 0.0, { w with files }⟩ ∧
    ∃ record nodes, files.Holds s.graphPath record ∧ record.HasNodes nodes ∧
      AccountsFor p.units p.entries nodes := by
  have hread := (FileTree.written_of_write hwrite).read
  have hholds := FileTree.holds_of_read (plain_toJson g (filesByName p.entries) 976) hread
  have hnames := (Reference.isResolved_of_graphOf hgraph).nodes.firstSeen
  exact ⟨Runner.carry_putText_ok hwrite time, _, _, hholds, hasNodes_toJson g p.entries,
    accountsFor_nodesOf (inStep_of_split hsplit) hnames⟩

def sharedName : Syntax.Tree :=
  .node ⟨"program", true, false, false, 0, 12, none⟩
    [.node ⟨"variable_declaration", true, false, false, 0, 6, none⟩
        [.node ⟨"variable_declarator", true, false, false, 4, 5, none⟩
          [.node ⟨"identifier", true, false, false, 4, 5, some "name"⟩ []]],
      .node ⟨"lexical_declaration", true, false, false, 6, 12, none⟩
        [.node ⟨"variable_declarator", true, false, false, 10, 11, none⟩
          [.node ⟨"identifier", true, false, false, 10, 11, some "name"⟩ []]]]

def bareProgram : Syntax.Tree := .node ⟨"program", true, false, false, 0, 0, none⟩ []

theorem exists_graphOf_bareProgram (units : List SourceUnit) :
    ∃ g, Reference.graphOf (fun _ => some bareProgram) units none = .ok g := by
  have hnone : Reference.referencesFrom [] bareProgram = [] := by decide +kernel
  have hreadable : ∀ u ∈ units, Reference.Readable (fun _ => some bareProgram) u := by
    intro u _
    refine ⟨rfl, fun t ht => ?_⟩
    have hmem : t ∈ Reference.referencesFrom [] bareProgram := ht
    rw [hnone] at hmem
    cases hmem
  rw [Reference.graphOf_eq]
  simp only [map_eq_ok_iff, Reference.edgesOf_eq_ok_iff]
  exact ⟨_, _, ⟨hreadable, rfl⟩, rfl⟩

theorem graphFile_accountsFor_sharedName :
    let source := Text.Utf8.encode "var a;let a;"
    let s : Store := ⟨⟨"", ["out"]⟩, false⟩
    let w : Surroundings Unit := ⟨.empty, 0.0, [], [], ()⟩
    ∃ p g files record nodes,
      Partition.split (fun _ => some sharedName) true source "input.js" = .ok p ∧
      ["a", "a"] <+: p.units.map (·.name) ∧
      Reference.graphOf (fun _ => some bareProgram) p.units none = .ok g ∧
      w.files.write s.graphPath (Text.Utf8.encode (g.toJson (filesByName p.entries)).indented)
        = (files, .ok ()) ∧
      files.Holds s.graphPath record ∧ record.HasNodes nodes ∧
      AccountsFor p.units p.entries nodes := by
  intro source s w
  have hok : (Partition.findings source none 0 sharedName).isOk := by decide +kernel
  obtain ⟨p, hp⟩ := Partition.exists_split_of_isOk hok rfl true "input.js"
  have hnames : ["a", "a"] <+: p.units.map (·.name) := by
    obtain ⟨text, root, found, -, hroot, hfound, hunits, -⟩ := Partition.exists_of_split hp
    cases hroot
    have hfirst : (Partition.findings source none 0 sharedName).map (List.map (·.name))
        = .ok ["a", "a"] := by
      decide +kernel
    rw [Partition.traverse_eq_findings] at hfound
    rw [hfound] at hfirst
    have hmap : (Partition.unitsOf source found).map (·.name) = ["a", "a"] := by
      rw [← Except.ok.inj hfirst]
      exact List.ext_getElem (by simp [Partition.unitsOf]) fun i h₁ h₂ => by
        simp [Partition.unitsOf, Partition.unitOf]
    rw [hunits, List.map_append, hmap]
    exact List.prefix_append _ _
  obtain ⟨g, hg⟩ := exists_graphOf_bareProgram p.units
  have hout : ∀ content,
      (FileTree.empty.write ⟨"", ["out", "dependency_graph.json"]⟩ content).2 = .ok () :=
    fun _ => by rfl
  let content := Text.Utf8.encode (g.toJson (filesByName p.entries)).indented
  have hwrite : w.files.write s.graphPath content
      = ((w.files.write s.graphPath content).1, .ok ()) :=
    Prod.ext rfl (hout content)
  obtain ⟨-, record, nodes, hfile⟩ :=
    graphFile_accountsFor hp hg ⟨fun _ m => (none, m), fun _ => 0.0⟩ hwrite 0.0
  exact ⟨p, g, _, record, nodes, hp, hnames, hg, hwrite, hfile⟩

end Output

end Dissect
