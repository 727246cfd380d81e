import Dissect.Partition.Split
import Dissect.Proofs.Partition.Findings
import Dissect.Proofs.Partition.Sweep
import Dissect.Proofs.Text.Lines

namespace Dissect.Partition

open Syntax Text

/-- A partition holds the units of the findings in the tree, then the unit of the unclaimed lines,
if there is one. -/
theorem exists_of_split {parse : Parser} {strict : Bool} {source : Bytes} {file : String}
    {p : Partition} (h : split parse strict source file = .ok p) :
    ∃ text root found, Utf8.decode source = .ok text ∧ parse source = some root ∧
      traverse source root = .ok found ∧
      p.units = unitsOf source found
        ++ (unclaimedUnit? (unitsOf source found) text (lineTotal text)).toList ∧
      p.lineCount = lineTotal text := by
  rw [split] at h
  split at h
  · cases h
  · rename_i text htext
    split at h
    · cases h
    · rename_i root hroot
      rw [ofTree] at h
      split at h
      · cases h
      · split at h
        · cases h
        · rename_i found hfound
          rw [Except.ok.injEq] at h
          subst h
          exact ⟨text, root, found, htext, hroot, hfound, rfl, rfl⟩

theorem mem_unitsOf_iff {source : Bytes} {found : List Finding} {u : SourceUnit} :
    u ∈ unitsOf source found ↔ ∃ i, ∃ h : i < found.length, unitOf source i found[i] = u := by
  rw [unitsOf, List.mem_mapIdx]

theorem exists_node_of_mem_unitsOf {source : Bytes} {root : Tree} {found : List Finding}
    (h : traverse source root = .ok found) {u : SourceUnit} (hu : u ∈ unitsOf source found) :
    ∃ t ∈ root.nodes, ∃ i d, Finding.Marks source d t ∧ u = unitOf source i d := by
  obtain ⟨i, hi, rfl⟩ := mem_unitsOf_iff.mp hu
  rw [traverse_eq_findings] at h
  obtain ⟨t, ht, hmarks⟩ := exists_node_of_mem_findings h (List.getElem_mem hi)
  exact ⟨t, ht, i, found[i], hmarks, rfl⟩

theorem unitRule?_ne_base {type : String} {kind : UnitKind} {naming : Naming}
    (h : unitRule? type = some (kind, naming)) : kind ≠ .base := by
  unfold unitRule? at h
  split at h <;> cases h <;> decide

theorem kind_ne_base_of_mem_unitsOf {source : Bytes} {root : Tree} {found : List Finding}
    (h : traverse source root = .ok found) {u : SourceUnit} (hu : u ∈ unitsOf source found) :
    u.kind ≠ .base := by
  obtain ⟨t, -, i, d, hd, rfl⟩ := exists_node_of_mem_unitsOf h hu
  obtain ⟨naming, hrule⟩ := hd.rule
  exact unitRule?_ne_base hrule

theorem mem_claimedRanges_iff {units : List SourceUnit} {r : Nat × Nat} :
    r ∈ claimedRanges units ↔ ∃ u ∈ units, u.isOutermost ∧ (u.startLine, u.endLine) = r := by
  simp [claimedRanges, and_assoc]

theorem pairwise_claimedRanges (units : List SourceUnit) :
    (claimedRanges units).Pairwise fun a b => a.1 ≤ b.1 := by
  rw [claimedRanges]
  refine (List.pairwise_mergeSort ?_ ?_ _).imp ?_
  · intro a b c hab hbc
    simp only [rangeLe, Bool.or_eq_true, Bool.and_eq_true, decide_eq_true_eq, beq_iff_eq] at *
    omega
  · intro a b
    simp only [rangeLe, Bool.or_eq_true, Bool.and_eq_true, decide_eq_true_eq, beq_iff_eq]
    omega
  · intro a b hab
    simp only [rangeLe, Bool.or_eq_true, Bool.and_eq_true, decide_eq_true_eq, beq_iff_eq] at hab
    omega

theorem lineFeedsBefore_mono (source : Bytes) {i j : Nat} (h : i ≤ j) :
    lineFeedsBefore source i ≤ lineFeedsBefore source j := by
  rw [lineFeedsBefore, lineFeedsBefore]
  exact (List.take_sublist_take_left h).countP_le

theorem lineFeedsBefore_le {source : Bytes} {text : String} (h : source = Utf8.encode text)
    (offset : Nat) : lineFeedsBefore source offset + 1 ≤ lineTotal text + 1 := by
  have hall : (source.take offset).countP (· == 10) ≤ source.countP (· == 10) :=
    (List.take_sublist offset source).countP_le
  have hcount : source.countP (· == 10) = text.toList.count '\n' := by
    rw [h, Utf8.encode, countP_encode]
  have := length_le_lineTotal text
  rw [length_splitLines] at this
  rw [lineFeedsBefore]
  omega

/-- The ranges of the units of a tree without nodes turned round suit the sweep. -/
theorem sweepable_claimedRanges {source : Bytes} {text : String} {root : Tree}
    {found : List Finding} (hfound : traverse source root = .ok found)
    (htext : source = Utf8.encode text)
    (hroot : ∀ t ∈ root.nodes, t.label.start ≤ t.label.stop) :
    Sweepable (lineTotal text) (claimedRanges (unitsOf source found)) where
  sorted := pairwise_claimedRanges _
  inOrder := by
    intro r hr
    obtain ⟨u, hu, -, rfl⟩ := mem_claimedRanges_iff.mp hr
    obtain ⟨t, ht, i, d, hd, rfl⟩ := exists_node_of_mem_unitsOf hfound hu
    have hle := lineFeedsBefore_mono source (hroot t ht)
    simp only [unitOf, hd.startLine, hd.endLine]
    omega
  start_le := by
    intro r hr
    obtain ⟨u, hu, -, rfl⟩ := mem_claimedRanges_iff.mp hr
    obtain ⟨t, ht, i, d, hd, rfl⟩ := exists_node_of_mem_unitsOf hfound hu
    simp only [unitOf, hd.startLine]
    exact lineFeedsBefore_le htext _

end Dissect.Partition
