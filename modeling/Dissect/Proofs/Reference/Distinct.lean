import Dissect.Reference.Graph
import Mathlib.Algebra.GroupWithZero.Nat
import Mathlib.Data.List.Induction
import Mathlib.Data.List.Nodup

namespace Dissect

variable {α β : Type} [BEq α]

/-- The elements of `xs`, each once, in the order in which they first stand in `xs`. -/
structure FirstSeen (xs ys : List α) : Prop where
  once : ys.Nodup
  mem_iff : ∀ x, x ∈ ys ↔ x ∈ xs
  order : ys.Pairwise fun x y => xs.idxOf x < xs.idxOf y

/-- One more of `x`: its count goes up where it has one, or starts behind the others. -/
def bump (x : α) : List (α × Nat) → List (α × Nat)
  | [] => [(x, 1)]
  | (y, n) :: rest => if y == x then (y, n + 1) :: rest else (y, n) :: bump x rest

def tally (xs : List α) : List (α × Nat) := xs.foldl (fun counts x => bump x counts) []

theorem tally_concat (xs : List α) (x : α) : tally (xs ++ [x]) = bump x (tally xs) := by
  rw [tally, List.foldl_append]
  rfl

theorem sum_bump (x : α) (counts : List (α × Nat)) :
    ((bump x counts).map Prod.snd).sum = (counts.map Prod.snd).sum + 1 := by
  induction counts with
  | nil => rfl
  | cons c rest ih =>
      rw [bump]
      split
      · simp only [List.map_cons, List.sum_cons]
        omega
      · simp only [List.map_cons, List.sum_cons, ih]
        omega

theorem sum_tally (xs : List α) : ((tally xs).map Prod.snd).sum = xs.length := by
  induction xs using List.reverseRecOn with
  | nil => rfl
  | append_singleton xs x ih =>
      rw [tally_concat, sum_bump, ih, List.length_append, List.length_singleton]

variable [LawfulBEq α]

theorem mem_distinct {xs : List α} {x : α} : x ∈ distinct xs ↔ x ∈ xs := by
  induction xs with
  | nil => rfl
  | cons y rest ih =>
      rw [distinct, List.mem_cons, List.mem_cons, List.mem_filter, ih, bne_iff_ne]
      constructor
      · rintro (heq | ⟨hmem, -⟩)
        · exact .inl heq
        · exact .inr hmem
      · intro hmem
        by_cases heq : x = y
        · exact .inl heq
        · exact .inr ⟨hmem.resolve_left heq, heq⟩

theorem nodup_distinct (xs : List α) : (distinct xs).Nodup := by
  induction xs with
  | nil => exact List.nodup_nil
  | cons x rest ih =>
      rw [distinct, List.nodup_cons]
      refine ⟨fun hmem => ?_, ih.filter _⟩
      exact bne_iff_ne.mp (List.mem_filter.mp hmem).2 rfl

theorem firstSeen_distinct (xs : List α) : FirstSeen xs (distinct xs) where
  once := nodup_distinct xs
  mem_iff _ := mem_distinct
  order := by
    induction xs with
    | nil => exact List.Pairwise.nil
    | cons x rest ih =>
        have hlater : ∀ y ∈ (distinct rest).filter (· != x),
            (x :: rest).idxOf y = rest.idxOf y + 1 :=
          fun y hy => List.idxOf_cons_ne _ (Ne.symm (bne_iff_ne.mp (List.mem_filter.mp hy).2))
        rw [distinct, List.pairwise_cons]
        constructor
        · intro y hy
          rw [hlater y hy, List.idxOf_cons_self]
          exact Nat.succ_pos _
        · refine (ih.filter _).imp_of_mem fun hy hz hlt => ?_
          rw [hlater _ hy, hlater _ hz]
          exact Nat.succ_lt_succ hlt

/-- What passes a test is found in the same order before and after repeats are dropped. -/
theorem distinct_filter (p : α → Bool) (xs : List α) :
    distinct (xs.filter p) = (distinct xs).filter p := by
  induction xs with
  | nil => rfl
  | cons x rest ih =>
      rw [List.filter_cons, distinct, List.filter_cons]
      split
      · rw [distinct, ih, List.filter_filter, List.filter_filter]
        simp only [Bool.and_comm]
      · rename_i hx
        rw [ih, List.filter_filter]
        refine List.filter_congr fun y _ => ?_
        by_cases hy : y = x
        · rw [hy, Bool.eq_false_iff.mpr hx, Bool.false_and]
        · rw [bne_iff_ne.mpr hy, Bool.and_true]

/-- Repeats that are dropped before a map make no difference after it. -/
theorem distinct_map_distinct [BEq β] [LawfulBEq β] (f : α → β) (xs : List α) :
    distinct ((distinct xs).map f) = distinct (xs.map f) := by
  induction xs with
  | nil => rfl
  | cons x rest ih =>
      have hsame : (((distinct rest).filter (· != x)).map f).filter (· != f x)
          = ((distinct rest).map f).filter (· != f x) := by
        rw [List.filter_map, List.filter_map, List.filter_filter]
        refine congrArg (List.map f) (List.filter_congr fun y _ => ?_)
        by_cases hy : y = x
        · rw [hy, Function.comp_apply, bne_self_eq_false, Bool.false_and]
        · rw [bne_iff_ne.mpr hy, Bool.and_true]
      rw [distinct, List.map_cons, List.map_cons, distinct, distinct, ← distinct_filter, hsame,
        distinct_filter, ih]

theorem distinct_append (xs ys : List α) :
    distinct (xs ++ ys) = distinct xs ++ (distinct ys).filter (!xs.contains ·) := by
  induction xs with
  | nil => simp [distinct]
  | cons x rest ih =>
      rw [List.cons_append, distinct, ih, distinct, List.filter_append, List.filter_filter,
        List.cons_append]
      simp only [List.contains_cons, Bool.not_or, bne]

theorem bump_map (x : α) {ys : List α} (hys : ys.Nodup) (count : α → Nat) :
    bump x (ys.map fun y => (y, count y))
      = (ys.map fun y => (y, count y + if y == x then 1 else 0))
          ++ if ys.contains x then [] else [(x, 1)] := by
  induction ys with
  | nil => rfl
  | cons y rest ih =>
      obtain ⟨hy, hrest⟩ := List.nodup_cons.mp hys
      rw [List.map_cons, bump, List.map_cons, List.cons_append]
      by_cases heq : y = x
      · have hothers : (rest.map fun z => (z, count z))
            = rest.map fun z => (z, count z + if z == x then 1 else 0) := by
          refine List.map_congr_left fun z hz => ?_
          rw [if_neg (fun h => hy (heq.trans (eq_of_beq h).symm ▸ hz)), Nat.add_zero]
        rw [if_pos (beq_iff_eq.mpr heq), if_pos (beq_iff_eq.mpr heq), hothers,
          if_pos (by simp [heq]), List.append_nil]
      · have hcontains : (y :: rest).contains x = rest.contains x := by
          simp [Ne.symm heq]
        rw [if_neg (fun h => heq (eq_of_beq h)), if_neg (fun h => heq (eq_of_beq h)), ih hrest,
          hcontains, Nat.add_zero]

theorem tally_eq (xs : List α) : tally xs = (distinct xs).map fun x => (x, xs.count x) := by
  induction xs using List.reverseRecOn with
  | nil => rfl
  | append_singleton xs x ih =>
      have hnew : (distinct [x]).filter (!xs.contains ·) = if xs.contains x then [] else [x] := by
        rw [distinct, distinct, List.filter_nil, List.filter_cons, List.filter_nil]
        cases xs.contains x <;> rfl
      have hcontains : (distinct xs).contains x = xs.contains x :=
        Bool.eq_iff_iff.mpr (by simp [mem_distinct])
      rw [tally_concat, ih, bump_map x (nodup_distinct xs), distinct_append, hnew, hcontains,
        List.map_append]
      congr 1
      · refine List.map_congr_left fun y _ => ?_
        rw [List.count_append, List.count_singleton, BEq.comm]
      · split
        · rfl
        · rename_i hno
          have hnone : xs.count x = 0 :=
            List.count_eq_zero.mpr fun hx => hno (List.contains_iff_mem.mpr hx)
          simp [List.count_append, hnone]

end Dissect
