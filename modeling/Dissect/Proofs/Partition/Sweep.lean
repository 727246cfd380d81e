import Mathlib.Data.List.Sort
import Dissect.Partition.Coverage

namespace Dissect.Partition

def holdsLine (range : Nat × Nat) (l : Nat) : Prop := range.1 ≤ l ∧ l ≤ range.2

instance (range : Nat × Nat) (l : Nat) : Decidable (holdsLine range l) :=
  inferInstanceAs (Decidable (_ ∧ _))

/-- Ranges as the sweep takes them for a source of `lineCount` lines: by their first lines, none
turned round, and none that starts behind the line after the last. -/
structure Sweepable (lineCount : Nat) (ranges : List (Nat × Nat)) : Prop where
  sorted : ranges.Pairwise fun a b => a.1 ≤ b.1
  inOrder : ∀ r ∈ ranges, r.1 ≤ r.2
  start_le : ∀ r ∈ ranges, r.1 ≤ lineCount + 1

theorem Sweepable.tail {lineCount : Nat} {r : Nat × Nat} {rest : List (Nat × Nat)}
    (h : Sweepable lineCount (r :: rest)) : Sweepable lineCount rest where
  sorted := h.sorted.of_cons
  inOrder := fun s hs => h.inOrder s (List.mem_cons_of_mem r hs)
  start_le := fun s hs => h.start_le s (List.mem_cons_of_mem r hs)

theorem uncoveredFrom_cons (lineCount next start stop : Nat) (rest : List (Nat × Nat)) :
    uncoveredFrom lineCount next ((start, stop) :: rest)
      = (if next < start then [(next, start - 1)] else [])
        ++ uncoveredFrom lineCount (max next (stop + 1)) rest := by
  rw [uncoveredFrom]
  split <;> rfl

theorem bounds_of_mem_uncoveredFrom {lineCount next : Nat} {ranges : List (Nat × Nat)}
    (h : Sweepable lineCount ranges) {s : Nat × Nat}
    (hs : s ∈ uncoveredFrom lineCount next ranges) :
    next ≤ s.1 ∧ s.1 ≤ s.2 ∧ s.2 ≤ lineCount := by
  induction ranges generalizing next with
  | nil =>
      rw [uncoveredFrom] at hs
      split at hs
      · rw [List.mem_singleton] at hs
        subst hs
        exact ⟨le_rfl, ‹_›, le_rfl⟩
      · exact absurd hs List.not_mem_nil
  | cons r rest ih =>
      obtain ⟨start, stop⟩ := r
      have hstart := h.start_le _ List.mem_cons_self
      rw [uncoveredFrom_cons, List.mem_append] at hs
      rcases hs with hs | hs
      · split at hs
        · rw [List.mem_singleton] at hs
          subst hs
          dsimp only at hstart ⊢
          omega
        · exact absurd hs List.not_mem_nil
      · have := ih h.tail hs
        omega

/-- The spans hold the lines from the first on that lie in no range. -/
theorem exists_holdsLine_iff {lineCount next : Nat} {ranges : List (Nat × Nat)}
    (h : Sweepable lineCount ranges) (l : Nat) :
    (∃ s ∈ uncoveredFrom lineCount next ranges, holdsLine s l) ↔
      next ≤ l ∧ l ≤ lineCount ∧ ∀ r ∈ ranges, ¬ holdsLine r l := by
  induction ranges generalizing next with
  | nil =>
      rw [uncoveredFrom]
      split
      · simp [holdsLine]
      · simp
        omega
  | cons r rest ih =>
      obtain ⟨start, stop⟩ := r
      have hstart : start ≤ lineCount + 1 := h.start_le _ List.mem_cons_self
      have hrest : ∀ r ∈ rest, start ≤ r.1 := fun r hr => List.rel_of_pairwise_cons h.sorted hr
      have htail := @ih (max next (stop + 1)) h.tail
      rw [uncoveredFrom_cons]
      constructor
      · rintro ⟨s, hs, hl⟩
        rcases List.mem_append.mp hs with hs | hs
        · split at hs
          · rw [List.mem_singleton] at hs
            subst hs
            simp only [holdsLine] at hl ⊢
            refine ⟨hl.1, by omega, fun r hr => ?_⟩
            rcases List.mem_cons.mp hr with rfl | hr
            · dsimp only
              omega
            · have := hrest r hr
              omega
          · exact absurd hs List.not_mem_nil
        · obtain ⟨hnext, hlast, hno⟩ := htail.mp ⟨s, hs, hl⟩
          refine ⟨by omega, hlast, fun r hr => ?_⟩
          rcases List.mem_cons.mp hr with rfl | hr
          · simp only [holdsLine]
            omega
          · exact hno r hr
      · rintro ⟨hnext, hlast, hno⟩
        have hr : ¬ (start ≤ l ∧ l ≤ stop) := hno _ List.mem_cons_self
        by_cases hl : l < start
        · refine ⟨(next, start - 1), ?_, hnext, by dsimp only; omega⟩
          rw [if_pos (by omega)]
          exact List.mem_append_left _ List.mem_cons_self
        · obtain ⟨s, hs, hsl⟩ := htail.mpr
            ⟨by omega, hlast, fun r hr => hno r (List.mem_cons_of_mem _ hr)⟩
          exact ⟨s, List.mem_append_right _ hs, hsl⟩

theorem pairwise_uncoveredFrom {lineCount next : Nat} {ranges : List (Nat × Nat)}
    (h : Sweepable lineCount ranges) :
    (uncoveredFrom lineCount next ranges).Pairwise fun a b => a.2 + 1 < b.1 := by
  induction ranges generalizing next with
  | nil =>
      rw [uncoveredFrom]
      split
      · exact List.pairwise_singleton _ _
      · exact List.Pairwise.nil
  | cons r rest ih =>
      obtain ⟨start, stop⟩ := r
      have hstop : start ≤ stop := h.inOrder _ List.mem_cons_self
      rw [uncoveredFrom_cons, List.pairwise_append]
      refine ⟨?_, ih h.tail, fun a ha b hb => ?_⟩
      · split
        · exact List.pairwise_singleton _ _
        · exact List.Pairwise.nil
      · split at ha
        · rw [List.mem_singleton] at ha
          subst ha
          have := bounds_of_mem_uncoveredFrom h.tail hb
          dsimp only
          omega
        · exact absurd ha List.not_mem_nil

theorem eq_or_apart {spans : List (Nat × Nat)} (h : spans.Pairwise fun a b => a.2 + 1 < b.1)
    {a b : Nat × Nat} (ha : a ∈ spans) (hb : b ∈ spans) :
    a = b ∨ a.2 + 1 < b.1 ∨ b.2 + 1 < a.1 := by
  induction spans with
  | nil => exact absurd ha List.not_mem_nil
  | cons s rest ih =>
      rw [List.pairwise_cons] at h
      rcases List.mem_cons.mp ha with has | ha
      · rcases List.mem_cons.mp hb with hbs | hb
        · exact .inl (has.trans hbs.symm)
        · exact .inr (.inl (has ▸ h.1 b hb))
      · rcases List.mem_cons.mp hb with hbs | hb
        · exact .inr (.inr (hbs ▸ h.1 a ha))
        · exact ih h.2 ha hb

theorem countP_holdsLine {spans : List (Nat × Nat)} (h : spans.Pairwise fun a b => a.2 + 1 < b.1)
    (l : Nat) :
    spans.countP (fun s => holdsLine s l) = if ∃ s ∈ spans, holdsLine s l then 1 else 0 := by
  induction spans with
  | nil => simp
  | cons s rest ih =>
      rw [List.pairwise_cons] at h
      rw [List.countP_cons, ih h.2]
      by_cases hs : holdsLine s l
      · have hrest : ¬ ∃ t ∈ rest, holdsLine t l := by
          rintro ⟨t, ht, htl⟩
          have := h.1 t ht
          simp only [holdsLine] at hs htl
          omega
        rw [if_neg hrest, if_pos (by simpa using hs), if_pos ⟨s, List.mem_cons_self, hs⟩]
      · simp only [hs, decide_false, Bool.false_eq_true, if_false, Nat.add_zero,
          List.mem_cons, exists_eq_or_imp, false_or]

def lineNumbers (spans : List (Nat × Nat)) : List Nat :=
  spans.flatMap fun s => List.range' s.1 (s.2 + 1 - s.1)

theorem mem_lineNumbers_iff {spans : List (Nat × Nat)} {l : Nat} :
    l ∈ lineNumbers spans ↔ ∃ s ∈ spans, holdsLine s l := by
  simp only [lineNumbers, List.mem_flatMap, List.mem_range'_1, holdsLine]
  exact exists_congr fun s => and_congr_right fun _ => by omega

theorem pairwise_lineNumbers {spans : List (Nat × Nat)}
    (h : spans.Pairwise fun a b => a.2 + 1 < b.1) : (lineNumbers spans).Pairwise (· < ·) := by
  rw [lineNumbers, List.pairwise_flatMap]
  refine ⟨fun s _ => List.pairwise_lt_range', h.imp fun hab x hx y hy => ?_⟩
  rw [List.mem_range'_1] at hx hy
  omega

theorem head?_lineNumbers {spans : List (Nat × Nat)} (h : ∀ s ∈ spans, s.1 ≤ s.2) :
    (lineNumbers spans).head? = spans.head?.map Prod.fst := by
  cases spans with
  | nil => rfl
  | cons s rest =>
      have hs := h s List.mem_cons_self
      rw [lineNumbers, List.flatMap_cons, show s.2 + 1 - s.1 = s.2 - s.1 + 1 by omega,
        List.range'_succ]
      rfl

theorem lineNumbers_eq_nil_iff {spans : List (Nat × Nat)} (h : ∀ s ∈ spans, s.1 ≤ s.2) :
    lineNumbers spans = [] ↔ spans = [] := by
  rw [← List.head?_eq_none_iff, head?_lineNumbers h, Option.map_eq_none_iff,
    List.head?_eq_none_iff]

theorem getLast?_lineNumbers {spans : List (Nat × Nat)} (h : ∀ s ∈ spans, s.1 ≤ s.2) :
    (lineNumbers spans).getLast? = spans.getLast?.map Prod.snd := by
  rcases List.eq_nil_or_concat spans with rfl | ⟨front, s, rfl⟩
  · rfl
  · have hs := h s (by simp)
    rw [lineNumbers, List.concat_eq_append, List.flatMap_append, List.flatMap_singleton,
      show s.2 + 1 - s.1 = s.2 - s.1 + 1 by omega, List.range'_concat]
    simp
    omega

theorem lineNumbers_uncoveredSpans {lineCount : Nat} {ranges : List (Nat × Nat)}
    (h : Sweepable lineCount ranges) :
    lineNumbers (uncoveredSpans ranges lineCount)
      = (List.range' 1 lineCount).filter fun l => ∀ r ∈ ranges, ¬ holdsLine r l := by
  rw [uncoveredSpans]
  apply (pairwise_lineNumbers (pairwise_uncoveredFrom h)).eq_of_mem_iff
    (List.Pairwise.filter _ List.pairwise_lt_range')
  intro l
  rw [mem_lineNumbers_iff, exists_holdsLine_iff h, List.mem_filter, List.mem_range'_1,
    decide_eq_true_eq, ← and_assoc]
  exact and_congr_left fun _ => by omega

end Dissect.Partition
