import Dissect.Proofs.Partition.Preorder
import Dissect.Proofs.Partition.Split

namespace Dissect.Partition

open Syntax Text

variable {parse : Parser} {strict : Bool} {source : Bytes} {file : String} {p : Partition}
  {root : Tree}

/-- A text is split if its tree has no error mark and the walk over the tree succeeds. -/
theorem exists_split_of_isOk {text : String}
    (hfound : (findings (Utf8.encode text) none 0 root).isOk) (hroot : root.label.hasError = false)
    (strict : Bool) (file : String) :
    ∃ p, split (fun _ => some root) strict (Utf8.encode text) file = .ok p := by
  rw [← traverse_eq_findings] at hfound
  obtain ⟨found, h⟩ := exists_eq_ok_iff.mpr hfound
  rw [split, Utf8.decode_eq_ok_iff.mpr rfl]
  simp only [ofTree, hroot, h]
  exact ⟨_, rfl⟩

theorem exists_findings_of_split (hsplit : split parse strict source file = .ok p)
    (hparse : parse source = some root) : ∃ found, findings source none 0 root = .ok found := by
  obtain ⟨text, root', found, -, hparse', hfound, -⟩ := exists_of_split hsplit
  obtain rfl : root = root' := Option.some.inj (hparse.symm.trans hparse')
  exact ⟨found, by rw [← traverse_eq_findings, hfound]⟩

theorem exists_describe_of_split (hsplit : split parse strict source file = .ok p)
    (hparse : parse source = some root) :
    ∃ text found, Describe source (root.placed []) found ∧ p.units = unitsOf source found
      ++ (unclaimedUnit? (unitsOf source found) text (lineTotal text)).toList := by
  obtain ⟨text, root', found, -, hparse', hfound, hunits, -⟩ := exists_of_split hsplit
  obtain rfl : root = root' := Option.some.inj (hparse.symm.trans hparse')
  rw [traverse_eq_findings] at hfound
  exact ⟨text, found, describe_of_findings hfound .none, hunits⟩

/-- Each node that becomes a unit has the unit at its position among these nodes. -/
theorem exists_unit_of_node (hsplit : split parse strict source file = .ok p)
    (hparse : parse source = some root) {i : Nat} {t : Tree}
    (ht : (root.nodes.filter isUnit)[i]? = some t) :
    ∃ around d, p.units[i]? = some (unitOf source i d) ∧ d.Describes source around t := by
  obtain ⟨text, found, hdescribe, hunits⟩ := exists_describe_of_split hsplit hparse
  have hnodes : root.nodes.filter isUnit
      = ((root.placed []).filter fun x => isUnit x.2).map Prod.snd := by
    rw [← Tree.map_snd_placed [] root, List.filter_map]
    rfl
  rw [hnodes, List.getElem?_map, Option.map_eq_some_iff] at ht
  obtain ⟨⟨around, _⟩, hplaced, rfl⟩ := ht
  obtain ⟨hi, hplaced⟩ := List.getElem?_eq_some_iff.mp hplaced
  have hlength := hdescribe.length_eq
  have hi' : i < found.length := hlength ▸ hi
  have hdescribes := hdescribe.get hi hi'
  rw [List.get_eq_getElem, List.get_eq_getElem, hplaced] at hdescribes
  refine ⟨around, found[i], ?_, hdescribes⟩
  have hunit : (unitsOf source found)[i]? = some (unitOf source i found[i]) := by
    rw [unitsOf, List.getElem?_mapIdx, List.getElem?_eq_getElem hi', Option.map_some]
  rw [hunits, List.getElem?_append_left (List.getElem?_eq_some_iff.mp hunit).1, hunit]

theorem exists_node_of_unit (hsplit : split parse strict source file = .ok p)
    (hparse : parse source = some root) {u : SourceUnit} (hu : u ∈ p.units) :
    (u.kind = .base ∧ u.name = "base") ∨
      ∃ around t i d, (around, t) ∈ root.placed [] ∧ u = unitOf source i d ∧
        d.Describes source around t := by
  obtain ⟨text, found, hdescribe, hunits⟩ := exists_describe_of_split hsplit hparse
  rw [hunits, List.mem_append] at hu
  rcases hu with hu | hu
  · obtain ⟨i, hi, rfl⟩ := mem_unitsOf_iff.mp hu
    have hi' := hdescribe.length_eq ▸ hi
    have hdescribes := hdescribe.get hi' hi
    rw [List.get_eq_getElem, List.get_eq_getElem] at hdescribes
    exact .inr ⟨_, _, i, found[i], (List.mem_filter.mp (List.getElem_mem hi')).1, rfl, hdescribes⟩
  · left
    rw [Option.mem_toList, unclaimedUnit?] at hu
    split at hu
    · cases hu
    · cases hu
      exact ⟨rfl, rfl⟩

end Dissect.Partition
