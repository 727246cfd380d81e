import Dissect.Proofs.Partition.Described
import Dissect.Proofs.Partition.Placements

namespace Dissect.Partition

/-- The file of a stem, its directory included, beside files that are used: the plain name, unless
it is used, else the numbered name with the least number from two on that is not used. -/
def IsFirstFree (used : List String) (stem file : String) : Prop :=
  (stem ++ ".js" ∉ used ∧ file = stem ++ ".js") ∨
    stem ++ ".js" ∈ used ∧ ∃ k, 2 ≤ k ∧ file = numbered stem k ∧ numbered stem k ∉ used ∧
      ∀ j, 2 ≤ j → j < k → numbered stem j ∈ used

theorem IsFirstFree.congr {used used' : List String} {stem file : String}
    (h : IsFirstFree used stem file) (hused : ∀ name, name ∈ used ↔ name ∈ used') :
    IsFirstFree used' stem file := by
  simpa only [IsFirstFree, hused] using h

theorem isFirstFree_fileFor (used : List String) (u : SourceUnit) :
    IsFirstFree used (u.kind.directory ++ "/" ++ fileStem u.name) (fileFor used u) := by
  rw [fileFor]
  split
  · rename_i hused
    obtain ⟨k, hk, hfile, hbelow⟩ := exists_numberedName used
      (u.kind.directory ++ "/" ++ fileStem u.name) used.length 2
    have hfree := numberedName_not_mem used (u.kind.directory ++ "/" ++ fileStem u.name) 2
    exact .inr ⟨List.contains_iff_mem.mp hused, k, hk, hfile, hfile ▸ hfree, hbelow⟩
  · rename_i hfree
    exact .inl ⟨fun hmem => hfree (List.contains_iff_mem.mpr hmem), rfl⟩

theorem isFirstFree_placementsFrom {used : List String} {units : List SourceUnit} {i : Nat}
    {u : SourceUnit} {e : Placement} (hu : units[i]? = some u)
    (he : (placementsFrom used units)[i]? = some e) :
    IsFirstFree (used ++ ((placementsFrom used units).take i).map (·.file))
      (u.kind.directory ++ "/" ++ fileStem u.name) e.file := by
  induction units generalizing used i with
  | nil => cases hu
  | cons v rest ih =>
      rw [placementsFrom] at he ⊢
      cases i with
      | zero =>
          obtain rfl : v = u := by simpa using hu
          obtain rfl : placementOf v (fileFor used v) = e := by simpa using he
          rw [List.take_zero, List.map_nil, List.append_nil]
          exact isFirstFree_fileFor used v
      | succ i =>
          rw [List.getElem?_cons_succ] at hu he
          refine (ih hu he).congr fun name => ?_
          simp only [List.take_succ_cons, List.map_cons, List.mem_append, List.mem_cons]
          exact or_assoc.trans or_left_comm

theorem placementsFrom_prefix (used : List String) (units more : List SourceUnit) :
    placementsFrom used units <+: placementsFrom used (units ++ more) := by
  induction units generalizing used with
  | nil => exact List.nil_prefix
  | cons u rest ih =>
      rw [List.cons_append, placementsFrom, placementsFrom]
      exact (List.prefix_cons_inj _).mpr (ih _)

/-- The entries are those of the units in order, each with a file of its own: the first that no
entry before it has, made of safe characters. -/
structure Assigned (units : List SourceUnit) (entries : List Placement) : Prop where
  entry : List.Forall₂ (fun u e => e = placementOf u e.file ∧ IsFileOf u.kind e.file) units entries
  distinct : (entries.map (·.file)).Nodup
  firstFree : ∀ (i : Nat) (u : SourceUnit) (e : Placement), units[i]? = some u →
    entries[i]? = some e →
    IsFirstFree ((entries.take i).map (·.file)) (u.kind.directory ++ "/" ++ fileStem u.name) e.file

theorem assigned_placements (units : List SourceUnit) : Assigned units (placements units) where
  entry := forall₂_placementsFrom [] units
  distinct := nodup_files_placementsFrom [] units
  firstFree _ _ _ hu he := isFirstFree_placementsFrom hu he

/-- The entries are those of the units, and each unit leads to its entry by its number. -/
structure Numbered (p : Partition) : Prop where
  entries : p.entries = placements p.units
  ids : p.units.map (·.id) = List.range p.units.length
  found : ∀ (i : Nat) (u : SourceUnit), p.units[i]? = some u →
    ∃ e, p.entries[i]? = some e ∧ p.placementOf? u = some e

theorem numbered_of_split {parse : Syntax.Parser} {strict : Bool} {source : Bytes} {file : String}
    {p : Partition} (h : split parse strict source file = .ok p) : Numbered p := by
  obtain ⟨hentries, -⟩ := entries_of_split h
  have hids := map_id_of_split h
  refine ⟨hentries, hids, fun i u hu => ?_⟩
  obtain ⟨hi, rfl⟩ := List.getElem?_eq_some_iff.mp hu
  have hi' : i < p.entries.length := by
    rw [hentries, placements, length_placementsFrom]
    exact hi
  have hid : p.units[i].id = i := by
    have hget := congrArg (·[i]?) hids
    simpa [hi] using hget
  refine ⟨p.entries[i], List.getElem?_eq_getElem hi', ?_⟩
  rw [placementOf?, hid, List.getElem?_eq_getElem hi']

/-- Any units get files of their own in order, which units behind them do not change; in the
partition of a source each unit leads to its entry. -/
theorem placements_areAssigned (units more : List SourceUnit) :
    Assigned units (placements units) ∧ placements units <+: placements (units ++ more) ∧
      ∀ {parse : Syntax.Parser} {strict : Bool} {source : Bytes} {file : String} {p : Partition},
        split parse strict source file = .ok p → Numbered p :=
  ⟨assigned_placements units, placementsFrom_prefix [] units more, numbered_of_split⟩

def twinDeclarations : Syntax.Tree :=
  .node ⟨"program", true, false, false, 0, 12, none⟩
    [.node ⟨"variable_declaration", true, false, false, 0, 6, none⟩
        [.node ⟨"variable_declarator", true, false, false, 4, 5, none⟩
          [.node ⟨"identifier", true, false, false, 4, 5, some "name"⟩ []]],
      .node ⟨"variable_declaration", true, false, false, 6, 12, none⟩
        [.node ⟨"variable_declarator", true, false, false, 10, 11, none⟩
          [.node ⟨"identifier", true, false, false, 10, 11, some "name"⟩ []]]]

theorem placements_areAssigned_twins :
    ∃ p, split (fun _ => some twinDeclarations) true (Text.Utf8.encode "var a;var a;") "input.js"
        = .ok p ∧ Assigned p.units (placements p.units) ∧
      placements p.units <+: placements (p.units ++ p.units) ∧ Numbered p := by
  have hok : (findings (Text.Utf8.encode "var a;var a;") none 0 twinDeclarations).isOk := by
    decide +kernel
  obtain ⟨p, hp⟩ := exists_split_of_isOk hok rfl true "input.js"
  obtain ⟨hassigned, hprefix, hnumbered⟩ := placements_areAssigned p.units p.units
  exact ⟨p, hp, hassigned, hprefix, hnumbered hp⟩

/-- A unit whose name looks like the numbered name of another one is numbered itself. -/
example :
    (placements (["a", "a", "a_2", "$a$"].map fun name =>
      ⟨0, name, .variable, 1, 1, 0, 0, "", none, 0, []⟩)).map (·.file)
      = ["variables/a.js", "variables/a_2.js", "variables/a_2_2.js", "variables/a_3.js"] := by
  decide +kernel

end Dissect.Partition
