import Dissect.Partition.Basic
import Mathlib.Algebra.GroupWithZero.Nat
import Mathlib.Data.List.Induction
import Mathlib.Data.List.Nodup

namespace Dissect.UnitGroups

/-- The groups hold the units by their kinds: no kind twice, in each group all units of its kind in
order, and a group for the kind of every unit. -/
structure IsGrouping (units : List SourceUnit) (groups : UnitGroups) : Prop where
  kinds : (groups.map Prod.fst).Nodup
  group : ∀ g ∈ groups, g.2 = units.filter (·.kind == g.1)
  found : ∀ u ∈ units, u.kind ∈ groups.map Prod.fst

theorem map_fst_add (u : SourceUnit) (groups : UnitGroups) :
    (add u groups).map Prod.fst
      = if u.kind ∈ groups.map Prod.fst then groups.map Prod.fst
        else groups.map Prod.fst ++ [u.kind] := by
  induction groups with
  | nil => rfl
  | cons g rest ih =>
      obtain ⟨k, us⟩ := g
      rw [add]
      by_cases hk : k = u.kind
      · simp [hk]
      · rw [if_neg hk, List.map_cons, ih]
        simp only [List.map_cons, List.mem_cons, Ne.symm hk, false_or]
        split <;> rfl

theorem mem_add {u : SourceUnit} {groups : UnitGroups} (hkinds : (groups.map Prod.fst).Nodup)
    {g : UnitKind × List SourceUnit} (hg : g ∈ add u groups) :
    (g.1 ≠ u.kind ∧ g ∈ groups) ∨ (∃ us, (u.kind, us) ∈ groups ∧ g = (u.kind, us ++ [u])) ∨
      (u.kind ∉ groups.map Prod.fst ∧ g = (u.kind, [u])) := by
  induction groups with
  | nil => exact .inr (.inr ⟨List.not_mem_nil, List.mem_singleton.mp hg⟩)
  | cons first rest ih =>
      obtain ⟨k, us⟩ := first
      rw [List.map_cons, List.nodup_cons] at hkinds
      rw [add] at hg
      split at hg
      · rename_i hk
        rcases List.mem_cons.mp hg with rfl | hg
        · exact .inr (.inl ⟨us, hk ▸ List.mem_cons_self, by rw [hk]⟩)
        · refine .inl ⟨fun heq => hkinds.1 ?_, List.mem_cons_of_mem _ hg⟩
          rw [hk, ← heq]
          exact List.mem_map.mpr ⟨g, hg, rfl⟩
      · rename_i hk
        rcases List.mem_cons.mp hg with rfl | hg
        · exact .inl ⟨hk, List.mem_cons_self⟩
        · rcases ih hkinds.2 hg with ⟨hne, hmem⟩ | ⟨us', hmem, rfl⟩ | ⟨hno, rfl⟩
          · exact .inl ⟨hne, List.mem_cons_of_mem _ hmem⟩
          · exact .inr (.inl ⟨us', List.mem_cons_of_mem _ hmem, rfl⟩)
          · refine .inr (.inr ⟨?_, rfl⟩)
            rw [List.map_cons, List.mem_cons, not_or]
            exact ⟨Ne.symm hk, hno⟩

theorem IsGrouping.add {units : List SourceUnit} {groups : UnitGroups}
    (h : IsGrouping units groups) (u : SourceUnit) : IsGrouping (units ++ [u]) (add u groups) where
  kinds := by
    rw [map_fst_add]
    split
    · exact h.kinds
    · rename_i hno
      rw [List.nodup_append]
      refine ⟨h.kinds, List.nodup_singleton _, fun k hk k' hk' => ?_⟩
      rw [List.mem_singleton.mp hk']
      exact fun heq => hno (heq ▸ hk)
  group := by
    intro g hg
    rw [List.filter_append]
    rcases mem_add h.kinds hg with ⟨hne, hmem⟩ | ⟨us, hmem, rfl⟩ | ⟨hno, rfl⟩
    · rw [h.group g hmem]
      simp [Ne.symm hne]
    · have hus : us = units.filter (·.kind == u.kind) := h.group _ hmem
      simp [hus]
    · have hnone : units.filter (·.kind == u.kind) = [] :=
        List.filter_eq_nil_iff.mpr fun v hv heq => hno (beq_iff_eq.mp heq ▸ h.found v hv)
      simp [hnone]
  found := by
    intro v hv
    rw [map_fst_add]
    rcases List.mem_append.mp hv with hv | hv
    · split
      · exact h.found v hv
      · exact List.mem_append_left _ (h.found v hv)
    · rw [List.mem_singleton.mp hv]
      split
      · assumption
      · exact List.mem_append_right _ List.mem_cons_self

theorem ofUnits_concat (units : List SourceUnit) (u : SourceUnit) :
    ofUnits (units ++ [u]) = add u (ofUnits units) := by
  rw [ofUnits, List.foldl_append]
  rfl

theorem isGrouping_ofUnits (units : List SourceUnit) : IsGrouping units (ofUnits units) := by
  induction units using List.reverseRecOn with
  | nil => exact ⟨List.nodup_nil, nofun, nofun⟩
  | append_singleton units u ih =>
      rw [ofUnits_concat]
      exact ih.add u

theorem sum_length_add (u : SourceUnit) (groups : UnitGroups) :
    ((add u groups).map fun g => g.2.length).sum = (groups.map fun g => g.2.length).sum + 1 := by
  induction groups with
  | nil => rfl
  | cons g rest ih =>
      rw [add]
      split
      · simp only [List.map_cons, List.sum_cons, List.length_append, List.length_singleton]
        omega
      · simp only [List.map_cons, List.sum_cons, ih]
        omega

theorem sum_length_ofUnits (units : List SourceUnit) :
    ((ofUnits units).map fun g => g.2.length).sum = units.length := by
  induction units using List.reverseRecOn with
  | nil => rfl
  | append_singleton units u ih =>
      rw [ofUnits_concat, sum_length_add, ih, List.length_append, List.length_singleton]

theorem IsGrouping.mem_iff {units : List SourceUnit} {groups : UnitGroups}
    (h : IsGrouping units groups) (u : SourceUnit) :
    u ∈ units ↔ ∃ g ∈ groups, g.1 = u.kind ∧ u ∈ g.2 := by
  constructor
  · intro hu
    obtain ⟨g, hg, hkind⟩ := List.mem_map.mp (h.found u hu)
    refine ⟨g, hg, hkind, ?_⟩
    rw [h.group g hg]
    exact List.mem_filter.mpr ⟨hu, by rw [hkind, beq_self_eq_true]⟩
  · rintro ⟨g, hg, -, hu⟩
    rw [h.group g hg] at hu
    exact (List.mem_filter.mp hu).1

/-- Groups of units of one kind each group the units that they hold together. -/
theorem isGrouping_flatMap {groups : UnitGroups} (hkinds : (groups.map Prod.fst).Nodup)
    (hgroups : ∀ g ∈ groups, ∀ u ∈ g.2, u.kind = g.1) :
    IsGrouping (groups.flatMap Prod.snd) groups where
  kinds := hkinds
  group := by
    intro g hg
    obtain ⟨front, back, rfl⟩ := List.append_of_mem hg
    have hsame : g.2.filter (·.kind == g.1) = g.2 := by
      simpa using hgroups g hg
    have hnone : ∀ others ⊆ front ++ g :: back, g.1 ∉ others.map Prod.fst →
        (others.flatMap Prod.snd).filter (·.kind == g.1) = [] := by
      intro others hsub hno
      simp only [List.filter_eq_nil_iff, List.mem_flatMap, beq_iff_eq]
      rintro u ⟨g', hg', hu⟩ hkind
      rw [← hkind, hgroups g' (hsub hg') u hu] at hno
      exact hno (List.mem_map_of_mem hg')
    simp only [List.map_append, List.map_cons, List.nodup_append, List.nodup_cons] at hkinds
    have hfront := hnone front (by simp) fun hin => hkinds.2.2 _ hin _ List.mem_cons_self rfl
    have hback := hnone back (by simp) hkinds.2.1.1
    simp [hfront, hback, hsame]
  found := by
    intro u hu
    obtain ⟨g, hg, hug⟩ := List.mem_flatMap.mp hu
    rw [hgroups g hg u hug]
    exact List.mem_map_of_mem hg

theorem IsGrouping.get_eq {units : List SourceUnit} {groups : UnitGroups}
    (h : IsGrouping units groups) (k : UnitKind) : groups.get k = units.filter (·.kind == k) := by
  rw [get]
  cases hlookup : groups.lookup k with
  | some us =>
      obtain ⟨_, _, rfl, -⟩ := List.lookup_eq_some_iff.mp hlookup
      exact h.group (k, us) (by simp)
  | none =>
      symm
      simp only [Option.getD_none, List.filter_eq_nil_iff, beq_iff_eq]
      rintro u hu rfl
      obtain ⟨g, hg, hkind⟩ := List.mem_map.mp (h.found u hu)
      simpa [hkind] using List.lookup_eq_none_iff.mp hlookup g hg

theorem IsGrouping.get_perm {units units' : List SourceUnit} {groups groups' : UnitGroups}
    (h : IsGrouping units groups) (h' : IsGrouping units' groups') (hunits : units'.Perm units)
    (k : UnitKind) : (groups'.get k).Perm (groups.get k) := by
  rw [h.get_eq, h'.get_eq]
  exact hunits.filter _

end Dissect.UnitGroups
