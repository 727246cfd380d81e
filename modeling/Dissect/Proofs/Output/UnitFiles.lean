import Dissect.Proofs.Output.Stubs
import Dissect.Proofs.Partition.Placements
import Dissect.Proofs.Runner.Writing

namespace Dissect.Output

open Syntax Text

/-- The trees that stubs are found in cut no character of the unit files. -/
def StubsFit (s : Store) (parse : Parser) (sourceFile : String) (units : List SourceUnit) : Prop :=
  s.stubs → ∀ u ∈ units, ∃ root, parse (Utf8.encode (withHeader u sourceFile)) = some root ∧
    root.CutsNoChar (withHeader u sourceFile)

theorem exists_unitContent {s : Store} {parse : Parser} {sourceFile : String}
    {units : List SourceUnit} (h : StubsFit s parse sourceFile units) :
    ∃ content : SourceUnit → String,
      ∀ u ∈ units, s.unitContent parse sourceFile u = .ok (content u) := by
  have heach : ∀ u, ∃ text, u ∈ units → s.unitContent parse sourceFile u = .ok text := by
    intro u
    by_cases hu : u ∈ units
    · rw [Store.unitContent]
      cases hstubs : s.stubs with
      | false => exact ⟨_, fun _ => rfl⟩
      | true =>
          obtain ⟨root, hroot, hcuts⟩ := h hstubs u hu
          obtain ⟨text, htext⟩ := exists_addStubs hroot hcuts
          exact ⟨text, fun _ => htext⟩
    · exact ⟨"", fun hmem => absurd hmem hu⟩
  choose content hcontent using heach
  exact ⟨content, hcontent⟩

theorem enter_plain {name : String} (h : name ≠ "." ∧ name ≠ "..") (loc : Location) :
    loc.enter name = loc ++ [name] := by
  rw [Location.enter, if_neg h.1, if_neg h.2]

theorem plain_directory (kind : UnitKind) : kind.directory ≠ "." ∧ kind.directory ≠ ".." := by
  cases kind <;> decide

theorem plain_fileName (stem : String) : stem ++ ".js" ≠ "." ∧ stem ++ ".js" ≠ ".." := by
  have hlength : (stem ++ ".js").toList.length = stem.toList.length + 3 := by
    rw [String.toList_append, List.length_append]
    rfl
  constructor <;> (intro h; rw [h] at hlength; simp at hlength)

theorem place_pathFor (s : Store) {kind : UnitKind} {e : Placement}
    (h : Partition.IsFileOf kind e.file) :
    (s.pathFor e).place = s.unitsDir.place ++ Path.namesOf e.file.toList := by
  obtain ⟨stem, -, hnames⟩ := Partition.exists_namesOf h
  rw [Store.pathFor, FileTree.place_join, hnames, List.foldl_cons, List.foldl_cons, List.foldl_nil,
    enter_plain (plain_directory kind), enter_plain (plain_fileName stem), List.append_assoc]
  rfl

theorem file_eq_of_namesOf {kind kind' : UnitKind} {file file' : String}
    (h : Partition.IsFileOf kind file) (h' : Partition.IsFileOf kind' file')
    (hnames : Path.namesOf file.toList = Path.namesOf file'.toList) : file = file' := by
  obtain ⟨stem, rfl, hfile⟩ := Partition.exists_namesOf h
  obtain ⟨stem', rfl, hfile'⟩ := Partition.exists_namesOf h'
  rw [hfile, hfile', List.cons.injEq, List.cons.injEq] at hnames
  rw [hnames.1, hnames.2.1]

/-- Units and their entries are in step, and the files of the entries are all different. -/
structure InStep (units : List SourceUnit) (entries : List Placement) : Prop where
  ids : units.map (·.id) = List.range units.length
  entry : List.Forall₂ (fun u e => e = Partition.placementOf u e.file ∧
    Partition.IsFileOf u.kind e.file) units entries
  files : (entries.map (·.file)).Nodup

theorem inStep_of_split {parse : Parser} {strict : Bool} {source : Bytes} {file : String}
    {p : Partition} (h : Partition.split parse strict source file = .ok p) :
    InStep p.units p.entries where
  ids := Partition.map_id_of_split h
  entry := by
    rw [(Partition.entries_of_split h).1]
    exact Partition.forall₂_placementsFrom [] p.units
  files := by
    rw [(Partition.entries_of_split h).1]
    exact Partition.nodup_files_placementsFrom [] p.units

namespace InStep

variable {units : List SourceUnit} {entries : List Placement}

theorem length_eq (h : InStep units entries) : units.length = entries.length := h.entry.length_eq

theorem map_snd_zip (h : InStep units entries) : (units.zip entries).map Prod.snd = entries :=
  List.map_snd_zip (Nat.le_of_eq h.length_eq.symm)

theorem isFileOf (h : InStep units entries) {ue : SourceUnit × Placement}
    (hue : ue ∈ units.zip entries) : Partition.IsFileOf ue.1.kind ue.2.file :=
  ((List.forall₂_iff_zip.mp h.entry).2 hue).2

theorem getElem?_id (h : InStep units entries) {ue : SourceUnit × Placement}
    (hue : ue ∈ units.zip entries) : entries[ue.1.id]? = some ue.2 := by
  obtain ⟨i, hi, rfl⟩ := List.getElem_of_mem hue
  rw [List.length_zip, Nat.lt_min] at hi
  have hid : units[i].id = i := by
    have hget := congrArg (·[i]?) h.ids
    simpa [hi.1] using hget
  rw [List.getElem_zip, hid, List.getElem?_eq_getElem hi.2]

theorem nodup_places (h : InStep units entries) (s : Store) :
    ((units.zip entries).map fun ue => (s.pathFor ue.2).place).Nodup := by
  have hfiles : ((units.zip entries).map fun ue => ue.2.file).Nodup := by
    have hmap := h.files
    rw [← h.map_snd_zip, List.map_map] at hmap
    exact hmap
  refine (List.Nodup.of_map _ hfiles).map_on fun a ha b hb hplace => ?_
  rw [place_pathFor s (h.isFileOf ha), place_pathFor s (h.isFileOf hb),
    List.append_cancel_left_eq] at hplace
  exact List.inj_on_of_nodup_map hfiles ha hb
    (file_eq_of_namesOf (h.isFileOf ha) (h.isFileOf hb) hplace)

theorem nodup_writes (h : InStep units entries) (s : Store) (content : SourceUnit → String) :
    ((Runner.unitWrites s content (units.zip entries)).map (·.1.place)).Nodup := by
  rw [Runner.unitWrites, List.map_map]
  exact h.nodup_places s

theorem map_pathFor (h : InStep units entries) (s : Store) :
    (units.zip entries).map (fun ue => s.pathFor ue.2) = entries.map s.pathFor := by
  conv_rhs => rw [← h.map_snd_zip]
  rw [List.map_map]
  rfl

theorem nodup_paths (h : InStep units entries) (s : Store) :
    (entries.map s.pathFor).Nodup := by
  have hplaces := h.nodup_places s
  rw [← h.map_pathFor s]
  refine List.Nodup.of_map Path.place ?_
  rwa [List.map_map]

end InStep

/-- Each unit of a partition has a file of its own with its content, and the directory for units
holds no other file. -/
structure Filed (s : Store) (p : Partition) (content : SourceUnit → String) (files : FileTree) :
    Prop where
  below : files.below s.unitsDir = (p.units.zip p.entries).map fun ue =>
    (Path.namesOf ue.2.file.toList, Utf8.encode (content ue.1))
  paired : p.units.length = p.entries.length
  distinct : (p.entries.map s.pathFor).Nodup
  placed : ∀ ue ∈ p.units.zip p.entries, p.placementOf? ue.1 = some ue.2
  read : ∀ ue ∈ p.units.zip p.entries,
    files.read (s.pathFor ue.2) = .ok (Utf8.encode (content ue.1))
  loaded : ∀ ue ∈ p.units.zip p.entries,
    s.loadUnit files ue.2 = .ok (some (unifyBreaks (content ue.1)))

theorem namesOf_ne_nil {kind : UnitKind} {file : String} (h : Partition.IsFileOf kind file) :
    Path.namesOf file.toList ≠ [] := by
  obtain ⟨stem, -, hnames⟩ := Partition.exists_namesOf h
  rw [hnames]
  exact List.cons_ne_nil _ _

theorem below_of_writtenAll {s : Store} {units : List SourceUnit} {entries : List Placement}
    (h : InStep units entries) {content : SourceUnit → String} {t t' : FileTree}
    (hnone : t.filesBelow s.unitsDir.place = [])
    (hwritten : t.WrittenAll (Runner.unitWrites s content (units.zip entries)) t') :
    t'.below s.unitsDir = (units.zip entries).map fun ue =>
      (Path.namesOf ue.2.file.toList, Utf8.encode (content ue.1)) := by
  have hnew : ∀ w ∈ Runner.unitWrites s content (units.zip entries),
      w.1.place ∉ t.files.map Prod.fst := by
    intro w hw
    obtain ⟨ue, hue, rfl⟩ := List.mem_map.mp hw
    rw [place_pathFor s (h.isFileOf hue)]
    exact FileTree.not_mem_of_filesBelow_nil hnone (namesOf_ne_nil (h.isFileOf hue))
  have hfiles : t'.filesBelow s.unitsDir.place = (units.zip entries).map fun ue =>
      (Path.namesOf ue.2.file.toList, Utf8.encode (content ue.1)) := by
    refine FileTree.filesBelow_append ?_ hnone ?_
    · intro f hf
      obtain ⟨ue, hue, rfl⟩ := List.mem_map.mp hf
      exact namesOf_ne_nil (h.isFileOf hue)
    · rw [hwritten.files (h.nodup_writes s content) hnew, Runner.unitWrites, List.map_map,
        List.map_map]
      congr 1
      refine List.map_congr_left fun ue hue => ?_
      simp only [Function.comp_apply, place_pathFor s (h.isFileOf hue)]
  cases hzip : units.zip entries with
  | nil =>
      rw [hzip] at hfiles
      rw [FileTree.below]
      cases hloc : t'.locate s.unitsDir with
      | error cause => rfl
      | ok loc =>
          rw [← hfiles, FileTree.eq_place_of_locate hloc]
          rfl
  | cons ue rest =>
      have hue : ue ∈ units.zip entries := hzip ▸ List.mem_cons_self
      have hlocated := hwritten.located _ (List.mem_map_of_mem hue)
      have hdir : t'.locate s.unitsDir = .ok s.unitsDir.place :=
        FileTree.locate_of_join (List.append_ne_nil_of_right_ne_nil _ (List.cons_ne_nil _ _))
          (namesOf_ne_nil (h.isFileOf hue)) hlocated
      rw [FileTree.below_of_locate hdir, hfiles, hzip]

theorem loadUnit_of_read {s : Store} {files : FileTree} {e : Placement} {text : String}
    (h : files.read (s.pathFor e) = .ok (Utf8.encode text)) :
    s.loadUnit files e = .ok (some (unifyBreaks text)) := by
  rw [Store.loadUnit, h]
  simp only [read_encode, Except.map]

theorem filed_of_writtenAll {s : Store} {p : Partition} (h : InStep p.units p.entries)
    {content : SourceUnit → String} {t t' : FileTree}
    (hnone : t.filesBelow s.unitsDir.place = [])
    (hwritten : t.WrittenAll (Runner.unitWrites s content (p.units.zip p.entries)) t') :
    Filed s p content t' := by
  have hread : ∀ ue ∈ p.units.zip p.entries,
      t'.read (s.pathFor ue.2) = .ok (Utf8.encode (content ue.1)) := by
    intro ue hue
    have hmem : (s.pathFor ue.2, Utf8.encode (content ue.1))
        ∈ Runner.unitWrites s content (p.units.zip p.entries) :=
      List.mem_map.mpr ⟨ue, hue, rfl⟩
    have hwrite := hwritten.read (h.nodup_writes s content) _ hmem
    exact hwrite
  exact
    { below := below_of_writtenAll h hnone hwritten
      paired := h.length_eq
      distinct := h.nodup_paths s
      placed := fun ue hue => h.getElem?_id hue
      read := hread
      loaded := fun ue hue => loadUnit_of_read (hread ue hue) }

/-- Writing the files of a partition's units comes to an end, with the files written one after
another up to the first that is refused. If none of them is, each unit then has a file of its own
with the content built for it, in a directory that holds no other file, and reading that file gives
the content with unified line breaks. -/
theorem writeUnitFiles_filed {parse : Parser} {strict : Bool} {source : Bytes} {file : String}
    {p : Partition} (hsplit : Partition.split parse strict source file = .ok p) {r : Runner}
    {s : Store} (hstubs : StubsFit s r.parse file p.units) {σ : Type}
    {w : Surroundings σ} (hnone : w.files.filesBelow s.unitsDir.place = [])
    (calls : Plan.Handler Call σ) (time : Float) :
    ∃ content, (∀ u ∈ p.units, s.unitContent r.parse file u = .ok (content u)) ∧
      let written := w.files.writeAll (Runner.unitWrites s content (p.units.zip p.entries))
      ∃ outcome stop, Runner.carry calls (r.writeUnitFiles s file (p.units.zip p.entries)) time w
          = ⟨.done outcome, stop, { w with files := written.1 }⟩ ∧
        (written.2 = .ok () →
          outcome = .ok (p.entries.map s.pathFor) ∧ Filed s p content written.1) ∧
        ∀ path f, written.2 = .error (path, f) → outcome = .error (Runner.refused path f) := by
  have hstep := inStep_of_split hsplit
  obtain ⟨content, hcontent⟩ := exists_unitContent hstubs
  have heach : ∀ ue ∈ p.units.zip p.entries,
      s.unitContent r.parse file ue.1 = .ok (content ue.1) :=
    fun ue hue => hcontent ue.1 (List.of_mem_zip hue).1
  obtain ⟨outcome, stop, hcarry, hok, herror⟩ :=
    Runner.exists_carry_writeUnitFiles heach calls time w
  rw [hstep.map_pathFor s] at hok
  refine ⟨content, hcontent, outcome, stop, hcarry, ?_, herror⟩
  intro hwritten
  exact ⟨hok hwritten, filed_of_writtenAll hstep hnone (FileTree.writtenAll_of_writeAll hwritten)⟩

def namelessPair : Tree :=
  .node ⟨"program", true, false, false, 0, 2, none⟩
    [.node ⟨"arrow_function", true, false, false, 0, 1, none⟩ [],
      .node ⟨"arrow_function", true, false, false, 1, 2, none⟩ []]

def leadingFunction : Tree :=
  .node ⟨"program", true, false, false, 0, 0, none⟩
    [.node ⟨"function_declaration", true, false, false, 0, 0, none⟩ []]

theorem cutsNoChar_leadingFunction (text : String) : leadingFunction.CutsNoChar text := by
  have hzero : Utf8.IsBoundary text 0 := ⟨"", text, String.empty_append.symm, rfl⟩
  intro v hv
  have hrange : v.label.start = 0 ∧ v.label.stop = 0 := by
    revert v
    decide
  rw [hrange.1, hrange.2]
  exact ⟨hzero, hzero⟩

def nestedArrows : Tree :=
  .node ⟨"program", true, false, false, 0, 2, none⟩
    [.node ⟨"arrow_function", true, false, false, 0, 2, none⟩
      [.node ⟨"arrow_function", true, false, false, 1, 2, none⟩ []]]

/-- Both arrow functions have the same name, and each has a file of its own. -/
theorem writeUnitFiles_filed_nestedArrows :
    let s : Store := ⟨⟨"", ["out"]⟩, true⟩
    let r : Runner := ⟨fun _ => some leadingFunction, true, "local", true, .standard, 3, 2.0, none,
      true⟩
    let w : Surroundings Unit := ⟨.empty, 0.0, [], [], ()⟩
    ∃ p, Partition.split (fun _ => some nestedArrows) true (Utf8.encode "ab") "input.js" = .ok p ∧
      p.entries.map (·.file)
        = ["arrow_functions/anonymous_arrow.js", "arrow_functions/anonymous_arrow_2.js"] ∧
      StubsFit s r.parse "input.js" p.units ∧
      w.files.filesBelow s.unitsDir.place = [] ∧
      ∃ content, (∀ u ∈ p.units, s.unitContent r.parse "input.js" u = .ok (content u)) ∧
        let written := w.files.writeAll (Runner.unitWrites s content (p.units.zip p.entries))
        written.2 = .ok () ∧
        ∃ outcome stop, Runner.carry ⟨fun _ m => (none, m), fun _ => 0.0⟩
            (r.writeUnitFiles s "input.js" (p.units.zip p.entries)) 0.0 w
              = ⟨.done outcome, stop, { w with files := written.1 }⟩ ∧
          outcome = .ok (p.entries.map s.pathFor) ∧ Filed s p content written.1 := by
  intro s r w
  let calls : Plan.Handler Call Unit := ⟨fun _ m => (none, m), fun _ => 0.0⟩
  let ends (p : Partition) : Option (Except RunError (List Path)) :=
    (Runner.carry calls (r.writeUnitFiles s "input.js" (p.units.zip p.entries)) 0.0 w).plan.result?
  have hdone : (Partition.split (fun _ => some nestedArrows) true (Utf8.encode "ab")
      "input.js").toOption.map (fun p => (p.entries.map (·.file), (ends p).map Except.isOk))
        = some (["arrow_functions/anonymous_arrow.js", "arrow_functions/anonymous_arrow_2.js"],
          some true) := by
    decide +kernel
  cases hp : Partition.split (fun _ => some nestedArrows) true (Utf8.encode "ab") "input.js" with
  | error e =>
      rw [hp] at hdone
      cases hdone
  | ok p =>
      rw [hp] at hdone
      obtain ⟨hfiles, hends⟩ := Prod.mk.inj (Option.some.inj hdone)
      have hstubs : StubsFit s r.parse "input.js" p.units :=
        fun _ u _ => ⟨leadingFunction, rfl, cutsNoChar_leadingFunction _⟩
      obtain ⟨content, hcontent, outcome, stop, hcarry, hok, herror⟩ :=
        writeUnitFiles_filed (w := w) hp hstubs rfl calls 0.0
      have hresult : outcome.isOk = true := by
        simpa only [ends, hcarry, Plan.result?, Option.map_some, Option.some.injEq] using hends
      cases hwritten : (w.files.writeAll
          (Runner.unitWrites s content (p.units.zip p.entries))).2 with
      | error refusal =>
          rw [herror refusal.1 refusal.2 hwritten] at hresult
          cases hresult
      | ok u =>
          exact ⟨p, rfl, hfiles, hstubs, rfl, content, hcontent, hwritten, outcome, stop, hcarry,
            hok hwritten⟩

end Dissect.Output
