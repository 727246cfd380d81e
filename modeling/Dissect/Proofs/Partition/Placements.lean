import Dissect.Path
import Dissect.Proofs.Partition.Split
import Dissect.Proofs.Partition.Stems
import Mathlib.Data.List.Nodup
import Mathlib.Data.List.Perm.Subperm

namespace Dissect.Partition

open Text

def numbered (stem : String) (k : Nat) : String := stem ++ "_" ++ toString k ++ ".js"

theorem numbered_injective (stem : String) : Function.Injective (numbered stem) := by
  intro a b h
  have hlists : Nat.toDigits 10 a = Nat.toDigits 10 b := by
    have h' := congrArg String.toList h
    simpa [numbered] using h'
  have hvalues := congrArg (fun digits => Nat.ofDigitChars 10 digits 0) hlists
  simpa using hvalues

theorem numbered_mem_of_numberedName_mem {used : List String} {stem : String} {tries k : Nat}
    (h : numberedName used stem tries k ∈ used) :
    ∀ i, k ≤ i → i ≤ k + tries → numbered stem i ∈ used := by
  induction tries generalizing k with
  | zero =>
      intro i hlow hhigh
      obtain rfl : i = k := by omega
      exact h
  | succ tries ih =>
      rw [numberedName] at h
      split at h
      · rename_i hused
        intro i hlow hhigh
        rcases Nat.eq_or_lt_of_le hlow with rfl | hlt
        · exact List.contains_iff_mem.mp hused
        · exact ih h i hlt (by omega)
      · rename_i hfree
        exact absurd (List.contains_iff_mem.mpr h) hfree

theorem numberedName_not_mem (used : List String) (stem : String) (k : Nat) :
    numberedName used stem used.length k ∉ used := by
  intro h
  have hall := numbered_mem_of_numberedName_mem h
  have hnodup : ((List.range' k (used.length + 1)).map (numbered stem)).Nodup :=
    (List.nodup_range' 1).map (numbered_injective stem)
  have hsub : (List.range' k (used.length + 1)).map (numbered stem) ⊆ used := by
    intro name hname
    obtain ⟨i, hi, rfl⟩ := List.mem_map.mp hname
    rw [List.mem_range'_1] at hi
    exact hall i hi.1 (by omega)
  have hlength := (hnodup.subperm hsub).length_le
  rw [List.length_map, List.length_range'] at hlength
  omega

theorem fileFor_not_mem (used : List String) (u : SourceUnit) : fileFor used u ∉ used := by
  rw [fileFor]
  split
  · exact numberedName_not_mem used _ 2
  · rename_i hfree
    rwa [List.contains_iff_mem] at hfree

/-- The search gives the first numbered name that it does not find used. -/
theorem exists_numberedName (used : List String) (stem : String) (tries k : Nat) :
    ∃ i, k ≤ i ∧ numberedName used stem tries k = numbered stem i ∧
      ∀ j, k ≤ j → j < i → numbered stem j ∈ used := by
  induction tries generalizing k with
  | zero => exact ⟨k, le_rfl, rfl, fun j hlow hhigh => by omega⟩
  | succ tries ih =>
      rw [numberedName]
      split
      · rename_i hused
        obtain ⟨i, hi, heq, hbelow⟩ := ih (k + 1)
        refine ⟨i, by omega, heq, fun j hlow hhigh => ?_⟩
        rcases Nat.eq_or_lt_of_le hlow with rfl | hlt
        · exact List.contains_iff_mem.mp hused
        · exact hbelow j hlt hhigh
      · exact ⟨k, le_rfl, rfl, fun j hlow hhigh => by omega⟩

theorem isStem_numbered {stem : String} (h : IsStem stem) (k : Nat) :
    IsStem (stem ++ "_" ++ toString k) := by
  intro c hc
  simp only [String.toList_append, List.mem_append, Nat.toString_eq_repr, Nat.toList_repr] at hc
  rcases hc with (hc | hc) | hc
  · exact h c hc
  · have hall : "_".toList.all isStemChar = true := by decide
    exact List.all_eq_true.mp hall c hc
  · have hdigit : c.isDigit := Nat.isDigit_of_mem_toDigits (by decide) (by decide) hc
    simp [isStemChar, Char.isAlphanum, hdigit]

/-- The file is one that a unit of the kind can get. -/
def IsFileOf (kind : UnitKind) (file : String) : Prop :=
  ∃ stem, IsStem stem ∧ file = kind.directory ++ "/" ++ (stem ++ ".js")

theorem isFileOf_fileFor (used : List String) (u : SourceUnit) :
    IsFileOf u.kind (fileFor used u) := by
  rw [fileFor]
  split
  · obtain ⟨i, -, hi, -⟩ := exists_numberedName used (u.kind.directory ++ "/" ++ fileStem u.name)
      used.length 2
    refine ⟨_, isStem_numbered (isStem_fileStem u.name) i, ?_⟩
    rw [hi, numbered]
    simp only [String.append_assoc]
  · exact ⟨_, isStem_fileStem u.name, by simp only [String.append_assoc]⟩

theorem slash_not_mem_of_isStem {stem : String} (h : IsStem stem) :
    '/' ∉ (stem ++ ".js").toList := by
  rw [String.toList_append, List.mem_append, not_or]
  refine ⟨fun hc => ?_, by decide⟩
  exact absurd (h '/' hc) (by decide)

theorem slash_not_mem_directory (kind : UnitKind) : '/' ∉ kind.directory.toList := by
  cases kind <;> decide

theorem namesOf_of_isStem (kind : UnitKind) {stem : String} (hstem : IsStem stem) :
    Path.namesOf (kind.directory ++ "/" ++ (stem ++ ".js")).toList
      = [kind.directory, stem ++ ".js"] := by
  have hcut : cut (· == '/') (kind.directory ++ "/" ++ (stem ++ ".js")).toList
      = [kind.directory.toList, (stem ++ ".js").toList] := by
    rw [cut_eq_splitOn]
    have hplain : ∀ part ∈ [kind.directory.toList, (stem ++ ".js").toList], '/' ∉ part := by
      simp only [List.forall_mem_cons, List.not_mem_nil, false_implies, implies_true, and_true]
      exact ⟨slash_not_mem_directory kind, slash_not_mem_of_isStem hstem⟩
    have hsplit := List.splitOn_intercalate '/' hplain (List.cons_ne_nil _ _)
    simpa [List.intercalate] using hsplit
  have hdir : (kind.directory.toList != [] && kind.directory.toList != ['.']) = true := by
    cases kind <;> decide
  have hname : ((stem ++ ".js").toList != [] && (stem ++ ".js").toList != ['.']) = true := by
    have hlength : (stem ++ ".js").toList.length = stem.toList.length + 3 := by
      rw [String.toList_append, List.length_append]
      rfl
    rw [Bool.and_eq_true, bne_iff_ne, bne_iff_ne]
    refine ⟨fun heq => ?_, fun heq => ?_⟩ <;>
      (rw [heq] at hlength; simp at hlength)
  rw [Path.namesOf, hcut]
  simp only [List.filter_cons, hdir, hname, if_true, List.filter_nil, List.map_cons,
    String.ofList_toList, List.map_nil]

theorem exists_namesOf {kind : UnitKind} {file : String} (h : IsFileOf kind file) :
    ∃ stem, file = kind.directory ++ "/" ++ (stem ++ ".js") ∧
      Path.namesOf file.toList = [kind.directory, stem ++ ".js"] := by
  obtain ⟨stem, hstem, rfl⟩ := h
  exact ⟨stem, rfl, namesOf_of_isStem kind hstem⟩

theorem length_placementsFrom (used : List String) (units : List SourceUnit) :
    (placementsFrom used units).length = units.length := by
  induction units generalizing used with
  | nil => rfl
  | cons u rest ih => rw [placementsFrom, List.length_cons, List.length_cons, ih]

theorem forall₂_placementsFrom (used : List String) (units : List SourceUnit) :
    List.Forall₂ (fun u e => e = placementOf u e.file ∧ IsFileOf u.kind e.file) units
      (placementsFrom used units) := by
  induction units generalizing used with
  | nil => exact .nil
  | cons u rest ih => exact .cons ⟨rfl, isFileOf_fileFor used u⟩ (ih _)

theorem not_mem_files_placementsFrom {used : List String} {units : List SourceUnit} {file : String}
    (h : file ∈ used) : file ∉ (placementsFrom used units).map (·.file) := by
  induction units generalizing used with
  | nil => exact List.not_mem_nil
  | cons u rest ih =>
      rw [placementsFrom, List.map_cons, List.mem_cons, not_or]
      refine ⟨?_, ih (List.mem_cons_of_mem _ h)⟩
      rintro rfl
      exact fileFor_not_mem used u h

theorem nodup_files_placementsFrom (used : List String) (units : List SourceUnit) :
    ((placementsFrom used units).map (·.file)).Nodup := by
  induction units generalizing used with
  | nil => exact List.nodup_nil
  | cons u rest ih =>
      rw [placementsFrom, List.map_cons, List.nodup_cons]
      exact ⟨not_mem_files_placementsFrom List.mem_cons_self, ih _⟩

theorem entries_of_split {parse : Syntax.Parser} {strict : Bool} {source : Bytes} {file : String}
    {p : Partition} (h : split parse strict source file = .ok p) :
    p.entries = placements p.units ∧ p.sourceFile = file := by
  rw [split] at h
  split at h
  · cases h
  · split at h
    · cases h
    · rw [ofTree] at h
      split at h
      · cases h
      · split at h
        · cases h
        · cases h
          exact ⟨rfl, rfl⟩

theorem map_id_unitsOf (source : Bytes) (found : List Finding) :
    (unitsOf source found).map (·.id) = List.range found.length := by
  refine List.ext_getElem (by simp [unitsOf]) fun i h₁ h₂ => ?_
  simp [unitsOf, unitOf]

theorem map_id_unclaimedUnit? (units : List SourceUnit) (text : String) (lineCount : Nat) :
    (unclaimedUnit? units text lineCount).toList.map (·.id) = [] ∨
      (unclaimedUnit? units text lineCount).toList.map (·.id) = [units.length] := by
  rw [unclaimedUnit?]
  split
  · exact .inl rfl
  · exact .inr rfl

theorem map_id_of_split {parse : Syntax.Parser} {strict : Bool} {source : Bytes} {file : String}
    {p : Partition} (h : split parse strict source file = .ok p) :
    p.units.map (·.id) = List.range p.units.length := by
  obtain ⟨text, root, found, -, -, -, hunits, -⟩ := exists_of_split h
  have hlength : (unitsOf source found).length = found.length := by simp [unitsOf]
  rw [hunits, List.map_append, List.length_append, map_id_unitsOf, hlength]
  have hbase := map_id_unclaimedUnit? (unitsOf source found) text (lineTotal text)
  rw [hlength] at hbase
  rcases hbase with hbase | hbase
  · have hnone := congrArg List.length hbase
    rw [List.length_map, List.length_nil] at hnone
    rw [hbase, hnone, List.append_nil, Nat.add_zero]
  · have hone := congrArg List.length hbase
    rw [List.length_map, List.length_singleton] at hone
    rw [hbase, hone, List.range_succ]

end Dissect.Partition
