import Dissect.Proofs.Reference.Distinct
import Mathlib.Data.List.Pairwise

namespace Dissect

section Sorting

variable {α : Type} (l : List (α × Nat))

def byCount : List (α × Nat) := l.mergeSort fun a b => b.2 ≤ a.2

theorem byCount_perm : (byCount l).Perm l := List.mergeSort_perm _ _

theorem noMore_trans (a b c : α × Nat) (hab : decide (b.2 ≤ a.2) = true)
    (hbc : decide (c.2 ≤ b.2) = true) : decide (c.2 ≤ a.2) = true :=
  decide_eq_true (Nat.le_trans (of_decide_eq_true hbc) (of_decide_eq_true hab))

theorem noMore_total (a b : α × Nat) : (decide (b.2 ≤ a.2) || decide (a.2 ≤ b.2)) = true := by
  rw [Bool.or_eq_true, decide_eq_true_eq, decide_eq_true_eq]
  exact Nat.le_total b.2 a.2

theorem pairwise_byCount : (byCount l).Pairwise fun a b => b.2 ≤ a.2 :=
  (List.pairwise_mergeSort noMore_trans noMore_total l).imp of_decide_eq_true

theorem filter_byCount (n : Nat) :
    (byCount l).filter (·.2 == n) = l.filter (·.2 == n) := by
  have hsorted : (l.filter (·.2 == n)).Pairwise fun a b => decide (b.2 ≤ a.2) = true := by
    refine List.pairwise_of_forall_mem_list fun a ha b hb => decide_eq_true ?_
    have hcount : a.2 = b.2 :=
      (beq_iff_eq.mp (List.mem_filter.mp ha).2).trans (beq_iff_eq.mp (List.mem_filter.mp hb).2).symm
    exact Nat.le_of_eq hcount.symm
  have hsub : (l.filter (·.2 == n)).Sublist (byCount l) :=
    List.sublist_mergeSort noMore_trans noMore_total hsorted List.filter_sublist
  have hfilter := hsub.filter (·.2 == n)
  rw [List.filter_filter] at hfilter
  simp only [Bool.and_self] at hfilter
  exact (hfilter.eq_of_length ((byCount_perm l).filter _).length_eq.symm).symm

/-- Sorted entries go down, and those with one count keep the order that they came in. -/
theorem pairwise_byCount_of_pairwise {l : List (α × Nat)} {R : α × Nat → α × Nat → Prop}
    (hl : l.Pairwise R) : (byCount l).Pairwise fun a b => b.2 < a.2 ∨ a.2 = b.2 ∧ R a b := by
  rw [List.pairwise_iff_forall_sublist]
  intro a b hab
  have hle : b.2 ≤ a.2 := List.pairwise_iff_forall_sublist.mp (pairwise_byCount l) hab
  rcases Nat.lt_or_eq_of_le hle with hlt | heq
  · exact .inl hlt
  · refine .inr ⟨heq.symm, ?_⟩
    -- A filter for their count keeps both, and leaves the entries as `l` has them.
    have hsame : [a, b].filter (·.2 == a.2) = [a, b] := by simp [heq]
    have hpair := hab.filter (·.2 == a.2)
    rw [filter_byCount, hsame] at hpair
    exact List.pairwise_iff_forall_sublist.mp hl (hpair.trans List.filter_sublist)

end Sorting

namespace ReferenceGraph

variable (g : ReferenceGraph)

theorem multiplicities_eq_tally : g.multiplicities = tally g.edges := (tally_eq g.edges).symm

theorem map_fst_multiplicities : g.multiplicities.map Prod.fst = g.distinctEdges := by
  rw [multiplicities, List.map_map]
  exact List.map_id _

theorem sum_multiplicities : (g.multiplicities.map Prod.snd).sum = g.edges.length := by
  rw [multiplicities_eq_tally, sum_tally]

variable {g}

theorem mem_targetsOf {a b : String} : b ∈ g.targetsOf a ↔ (a, b) ∈ g.edges := by
  rw [targetsOf, List.mem_map, ← mem_distinct, ← distinctEdges]
  constructor
  · rintro ⟨⟨s, t⟩, hmem, rfl⟩
    obtain ⟨hedge, hs⟩ := List.mem_filter.mp hmem
    exact beq_iff_eq.mp hs ▸ hedge
  · intro hedge
    exact ⟨(a, b), List.mem_filter.mpr ⟨hedge, beq_self_eq_true a⟩, rfl⟩

theorem mem_sourcesOf {a b : String} : a ∈ g.sourcesOf b ↔ (a, b) ∈ g.edges := by
  rw [sourcesOf, List.mem_map, ← mem_distinct, ← distinctEdges]
  constructor
  · rintro ⟨⟨s, t⟩, hmem, rfl⟩
    obtain ⟨hedge, ht⟩ := List.mem_filter.mp hmem
    exact beq_iff_eq.mp ht ▸ hedge
  · intro hedge
    exact ⟨(a, b), List.mem_filter.mpr ⟨hedge, beq_self_eq_true b⟩, rfl⟩

theorem nodup_targetsOf (g : ReferenceGraph) (a : String) : (g.targetsOf a).Nodup := by
  refine ((nodup_distinct g.edges).filter _).map_on fun e he f hf heq => ?_
  refine Prod.ext ?_ heq
  rw [beq_iff_eq.mp (List.mem_filter.mp he).2, beq_iff_eq.mp (List.mem_filter.mp hf).2]

theorem nodup_sourcesOf (g : ReferenceGraph) (b : String) : (g.sourcesOf b).Nodup := by
  refine ((nodup_distinct g.edges).filter _).map_on fun e he f hf heq => ?_
  refine Prod.ext heq ?_
  rw [beq_iff_eq.mp (List.mem_filter.mp he).2, beq_iff_eq.mp (List.mem_filter.mp hf).2]

variable (g)

/-- The number of other names that refer to a name. -/
def degree (t : String) : Nat := ((g.sourcesOf t).filter (· != t)).length

/-- The names that others refer to, once for each reference. -/
def referredTo : List String := (g.edges.filter fun e => e.1 != e.2).map Prod.snd

/-- The entries of `listed` are the targets that most others refer to, at most `limit` of them: each
with the number of the others, which is not 0, those with more first and equal ones as first seen,
and no name that is left out goes before one that is listed. -/
structure Ranked (limit : Int) (listed : List (String × Nat)) : Prop where
  names : (listed.map Prod.fst).Nodup
  degrees : ∀ e ∈ listed, e.2 = g.degree e.1 ∧ 1 ≤ e.2
  order : listed.Pairwise fun a b =>
    b.2 < a.2 ∨ a.2 = b.2 ∧ g.referredTo.idxOf a.1 < g.referredTo.idxOf b.1
  greatest : ∀ t, t ∉ listed.map Prod.fst → ∀ e ∈ listed,
    g.degree t < e.2 ∨ g.degree t = e.2 ∧ g.referredTo.idxOf e.1 < g.referredTo.idxOf t
  length : (listed.length : Int) = min (max limit 0)
    ((distinct (g.edges.map Prod.snd)).countP fun t => 1 ≤ g.degree t)

variable {g}

theorem degree_eq (t : String) :
    g.degree t = (g.distinctEdges.filter fun e => e.1 != e.2).countP (·.2 == t) := by
  rw [degree, sourcesOf, List.filter_map, List.length_map, List.filter_filter,
    List.countP_filter, List.countP_eq_length_filter]
  refine congrArg List.length (List.filter_congr fun e _ => ?_)
  rw [Function.comp_apply, Bool.and_comm]
  by_cases ht : e.2 = t
  · rw [ht]
  · rw [beq_eq_false_iff_ne.mpr ht, Bool.false_and, Bool.false_and]

theorem degree_pos_iff (t : String) : 1 ≤ g.degree t ↔ t ∈ g.referredTo := by
  rw [degree_eq, Nat.one_le_iff_ne_zero, ← Nat.pos_iff_ne_zero, List.countP_pos_iff, referredTo,
    List.mem_map]
  refine exists_congr fun e => ?_
  rw [distinctEdges, List.mem_filter, List.mem_filter, mem_distinct, beq_iff_eq]

/-- The entries are the names that others refer to, in first-seen order, with their degrees. -/
theorem inDegrees_eq : g.inDegrees = (distinct g.referredTo).map fun t => (t, g.degree t) := by
  have hnames : distinct ((g.distinctEdges.filter fun e => e.1 != e.2).map (·.2))
      = distinct g.referredTo := by
    rw [distinctEdges, ← distinct_filter, distinct_map_distinct, referredTo]
  rw [inDegrees, hnames]
  refine List.map_congr_left fun t _ => ?_
  rw [degree_eq, List.count_eq_countP, List.countP_map]
  rfl

theorem map_fst_inDegrees (g : ReferenceGraph) :
    g.inDegrees.map Prod.fst = distinct g.referredTo := by
  rw [inDegrees_eq, List.map_map]
  exact List.map_id _

theorem mem_inDegrees {e : String × Nat} :
    e ∈ g.inDegrees ↔ e.1 ∈ g.referredTo ∧ e.2 = g.degree e.1 := by
  rw [inDegrees_eq, List.mem_map]
  constructor
  · rintro ⟨t, ht, rfl⟩
    exact ⟨mem_distinct.mp ht, rfl⟩
  · rintro ⟨ht, hn⟩
    exact ⟨e.1, mem_distinct.mpr ht, Prod.ext rfl hn.symm⟩

theorem length_inDegrees (g : ReferenceGraph) :
    g.inDegrees.length = (distinct (g.edges.map Prod.snd)).countP fun t => 1 ≤ g.degree t := by
  rw [← List.length_map (f := Prod.fst), map_fst_inDegrees, List.countP_eq_length_filter]
  refine List.Perm.length_eq ((List.perm_ext_iff_of_nodup (nodup_distinct _)
    ((nodup_distinct _).filter _)).mpr fun t => ?_)
  rw [mem_distinct, List.mem_filter, mem_distinct, decide_eq_true_eq, degree_pos_iff]
  refine (and_iff_right_of_imp fun ht => ?_).symm
  obtain ⟨e, he, rfl⟩ := List.mem_map.mp ht
  exact List.mem_map_of_mem (List.mem_filter.mp he).1

theorem pairwise_byCount_inDegrees (g : ReferenceGraph) :
    (byCount g.inDegrees).Pairwise fun a b =>
      b.2 < a.2 ∨ a.2 = b.2 ∧ g.referredTo.idxOf a.1 < g.referredTo.idxOf b.1 := by
  apply pairwise_byCount_of_pairwise
  have h := (firstSeen_distinct g.referredTo).order
  rwa [← map_fst_inDegrees, List.pairwise_map] at h

theorem ranked_topTargets (g : ReferenceGraph) (limit : Int) :
    g.Ranked limit (g.topTargets limit) := by
  have hperm := byCount_perm g.inDegrees
  have hsub : (g.topTargets limit).Sublist (byCount g.inDegrees) := List.take_sublist _ _
  have hentry : ∀ e ∈ g.topTargets limit, e.1 ∈ g.referredTo ∧ e.2 = g.degree e.1 :=
    fun e he => mem_inDegrees.mp (hperm.mem_iff.mp (hsub.subset he))
  constructor
  · refine (hsub.map Prod.fst).nodup ((hperm.map Prod.fst).nodup_iff.mpr ?_)
    rw [map_fst_inDegrees]
    exact nodup_distinct _
  · intro e he
    obtain ⟨ht, hn⟩ := hentry e he
    exact ⟨hn, hn ▸ (degree_pos_iff e.1).mpr ht⟩
  · exact g.pairwise_byCount_inDegrees.sublist hsub
  · intro t ht e he
    obtain ⟨he', hn⟩ := hentry e he
    by_cases hpos : 1 ≤ g.degree t
    · have hmem : (t, g.degree t) ∈ byCount g.inDegrees :=
        hperm.mem_iff.mpr (mem_inDegrees.mpr ⟨(degree_pos_iff t).mp hpos, rfl⟩)
      rw [← List.take_append_drop limit.toNat (byCount g.inDegrees)] at hmem
      rcases List.mem_append.mp hmem with hin | hout
      · exact absurd (List.mem_map_of_mem hin) ht
      · have hrel := g.pairwise_byCount_inDegrees.rel_of_mem_take_of_mem_drop he hout
        exact hrel.imp_right fun h => ⟨h.1.symm, h.2⟩
    · have := (degree_pos_iff e.1).mpr he'
      exact .inl (by omega)
  · have hlength : (g.topTargets limit).length = min limit.toNat g.inDegrees.length := by
      rw [← hperm.length_eq]
      exact List.length_take
    rw [hlength, ← length_inDegrees]
    omega

example :
    (ReferenceGraph.mk ["f", "g", "h"]
      [("f", "h"), ("g", "g"), ("f", "h"), ("h", "g"), ("g", "h"), ("f", "g")]).topTargets 2
      = [("h", 2), ("g", 2)] := by
  cbv

theorem topTargets_isPrefix (g : ReferenceGraph) {j k : Int} (hjk : j ≤ k) :
    g.topTargets j <+: g.topTargets k :=
  List.take_prefix_take_left (Int.toNat_le_toNat hjk)

/-- The queries of a graph agree with one another. -/
structure QueriesAgree (g : ReferenceGraph) : Prop where
  edges : FirstSeen g.edges g.distinctEdges
  counted : g.multiplicities = tally g.edges
  keys : g.multiplicities.map Prod.fst = g.distinctEdges
  total : (g.multiplicities.map Prod.snd).sum = g.edges.length
  converse : ∀ a b, b ∈ g.targetsOf a ↔ a ∈ g.sourcesOf b
  targets : ∀ a, (g.targetsOf a).Nodup
  sources : ∀ b, (g.sourcesOf b).Nodup
  ranked : ∀ limit, g.Ranked limit (g.topTargets limit)
  initial : ∀ j k, j ≤ k → g.topTargets j <+: g.topTargets k

theorem queriesAgree (g : ReferenceGraph) : g.QueriesAgree where
  edges := firstSeen_distinct g.edges
  counted := g.multiplicities_eq_tally
  keys := g.map_fst_multiplicities
  total := g.sum_multiplicities
  converse _ _ := mem_targetsOf.trans mem_sourcesOf.symm
  targets := g.nodup_targetsOf
  sources := g.nodup_sourcesOf
  ranked := g.ranked_topTargets
  initial _ _ := g.topTargets_isPrefix

end ReferenceGraph

end Dissect
