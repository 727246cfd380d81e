import Dissect.Analysis.Run
import Dissect.Proofs.Partition.Groups
import Dissect.Proofs.Summary.Chunks
import Mathlib.Data.List.Forall2
import Mathlib.Data.List.Perm.Subperm

namespace Dissect.Analysis

variable {units others chosen : List SourceUnit} {groups : UnitGroups} {count : Nat}

/-- `u` has the longer code, or code of the same length and the lower id. -/
def Outranks (u v : SourceUnit) : Prop :=
  v.code.length < u.code.length ∨ u.code.length = v.code.length ∧ u.id < v.id

theorem Outranks.asymm {u v : SourceUnit} (h : Outranks u v) : ¬ Outranks v u := by
  simp only [Outranks] at h ⊢
  omega

theorem outranks_or_outranks {u v : SourceUnit} (h : u.id ≠ v.id) :
    Outranks u v ∨ Outranks v u := by
  simp only [Outranks]
  omega

theorem byCodeLength_iff (u v : SourceUnit) : byCodeLength u v = true ↔ ¬ Outranks v u := by
  simp only [byCodeLength, Outranks, Bool.or_eq_true, Bool.and_eq_true, decide_eq_true_eq,
    beq_iff_eq]
  omega

theorem byCodeLength_trans (u v w : SourceUnit) (huv : byCodeLength u v = true)
    (hvw : byCodeLength v w = true) : byCodeLength u w = true := by
  simp only [byCodeLength_iff, Outranks] at huv hvw ⊢
  omega

theorem byCodeLength_total (u v : SourceUnit) : (byCodeLength u v || byCodeLength v u) = true := by
  simp only [Bool.or_eq_true, byCodeLength_iff, Outranks]
  omega

def ranked (units : List SourceUnit) : List SourceUnit := units.mergeSort byCodeLength

theorem ranked_perm (units : List SourceUnit) : (ranked units).Perm units :=
  List.mergeSort_perm units byCodeLength

theorem pairwise_ranked (hids : (units.map (·.id)).Nodup) : (ranked units).Pairwise Outranks := by
  have hdistinct : (ranked units).Pairwise (·.id ≠ ·.id) := by
    rw [← List.pairwise_map]
    exact ((ranked_perm units).map (·.id)).nodup_iff.mpr hids
  have hsorted : (ranked units).Pairwise (byCodeLength · · = true) :=
    List.pairwise_mergeSort byCodeLength_trans byCodeLength_total units
  refine hdistinct.imp₂ (fun u v hne hle => ?_) hsorted
  exact (outranks_or_outranks hne).resolve_right ((byCodeLength_iff u v).mp hle)

/-- `chosen` are the `count` units that outrank all others, or all where there are no more, each
before those that it outranks. -/
structure AreLargest (units : List SourceUnit) (count : Nat) (chosen : List SourceUnit) : Prop where
  subset : chosen ⊆ units
  nodup : chosen.Nodup
  length : chosen.length = min count units.length
  order : chosen.Pairwise Outranks
  outrank : ∀ u ∈ chosen, ∀ v ∈ units, v ∉ chosen → Outranks u v

theorem areLargest_take_ranked (hids : (units.map (·.id)).Nodup) (count : Nat) :
    AreLargest units count ((ranked units).take count) := by
  have hperm := ranked_perm units
  have hsorted := pairwise_ranked hids
  constructor
  · exact fun u hu => hperm.subset (List.mem_of_mem_take hu)
  · exact (hperm.nodup_iff.mpr hids.of_map).sublist (List.take_sublist _ _)
  · rw [List.length_take, hperm.length_eq]
  · exact hsorted.sublist (List.take_sublist _ _)
  · intro u hu v hv hout
    apply hsorted.rel_of_mem_take_of_mem_drop hu
    have hv : v ∈ (ranked units).take count ++ (ranked units).drop count := by
      rw [List.take_append_drop]
      exact hperm.mem_iff.mpr hv
    exact (List.mem_append.mp hv).resolve_left hout

namespace AreLargest

theorem of_perm (h : AreLargest units count chosen) (hperm : units.Perm others) :
    AreLargest others count chosen where
  subset _ hu := hperm.subset (h.subset hu)
  nodup := h.nodup
  length := hperm.length_eq ▸ h.length
  order := h.order
  outrank u hu v hv := h.outrank u hu v (hperm.mem_iff.mpr hv)

theorem of_min_eq {count' : Nat} (h : AreLargest units count chosen)
    (hcount : min count units.length = min count' units.length) :
    AreLargest units count' chosen :=
  { h with length := h.length.trans hcount }

theorem subset_of_areLargest {chosen' : List SourceUnit} (h : AreLargest units count chosen)
    (h' : AreLargest units count chosen') : chosen ⊆ chosen' := by
  intro u hu
  by_contra hout
  -- A unit that only `chosen'` has and `u` would outrank each other.
  have hsub : chosen' ⊆ chosen := by
    intro v hv
    by_contra hv'
    exact (h.outrank u hu v (h'.subset hv) hv').asymm (h'.outrank v hv u (h.subset hu) hout)
  have hle : chosen.length ≤ chosen'.length := by rw [h.length, h'.length]
  have hperm := (h'.nodup.subperm hsub).perm_of_length_le hle
  exact hout (hperm.mem_iff.mpr hu)

theorem unique {chosen' : List SourceUnit} (h : AreLargest units count chosen)
    (h' : AreLargest units count chosen') : chosen = chosen' := by
  have hperm : chosen.Perm chosen' := by
    rw [List.perm_ext_iff_of_nodup h.nodup h'.nodup]
    exact fun u => ⟨fun hu => h.subset_of_areLargest h' hu, fun hu => h'.subset_of_areLargest h hu⟩
  exact hperm.eq_of_pairwise (fun u v _ _ huv hvu => absurd hvu huv.asymm) h.order h'.order

end AreLargest

theorem largestUnits_eq (groups : UnitGroups) (kinds : List UnitKind) (limit : Int) :
    largestUnits groups kinds limit = kinds.flatMap fun k =>
      (ranked (groups.get k)).take (Text.position (groups.get k).length limit) := by
  simp only [largestUnits, ranked, List.length_mergeSort]

theorem exists_areLargest (hids : ∀ k, ((groups.get k).map (·.id)).Nodup) (kinds : List UnitKind)
    (limit : Int) :
    ∃ parts, largestUnits groups kinds limit = parts.flatten ∧
      List.Forall₂ (fun k part =>
        AreLargest (groups.get k) (Text.position (groups.get k).length limit) part) kinds parts := by
  refine ⟨_, (largestUnits_eq groups kinds limit).trans List.flatMap_def, ?_⟩
  rw [List.forall₂_map_right_iff, List.forall₂_same]
  exact fun k _ => areLargest_take_ranked (hids k) _

theorem largestUnits_of_perm {others : UnitGroups} (hids : ∀ k, ((groups.get k).map (·.id)).Nodup)
    (hperm : ∀ k, (others.get k).Perm (groups.get k)) (kinds : List UnitKind) (limit : Int) :
    largestUnits others kinds limit = largestUnits groups kinds limit := by
  rw [largestUnits_eq, largestUnits_eq]
  apply List.flatMap_congr
  intro k _
  have hids' := ((hperm k).map (·.id)).nodup_iff.mpr (hids k)
  rw [(hperm k).length_eq]
  exact ((areLargest_take_ranked hids' _).of_perm (hperm k)).unique
    (areLargest_take_ranked (hids k) _)

theorem nodup_ids_get (hgroups : groups.IsGrouping units) (hids : (units.map (·.id)).Nodup)
    (k : UnitKind) : ((groups.get k).map (·.id)).Nodup := by
  rw [hgroups.get_eq]
  exact hids.sublist (List.filter_sublist.map _)

theorem sampleSections_of_unitText {s s' : Subject} (htext : s'.unitText = s.unitText)
    (units : List SourceUnit) : sampleSections s' units = sampleSections s units := by
  induction units with
  | nil => rfl
  | cons u units ih => rw [sampleSections, sampleSections, ih, htext]

theorem samplesFor_of_perm {s s' : Subject} (hids : (s.partition.units.map (·.id)).Nodup)
    (hunits : s'.partition.units.Perm s.partition.units) (htext : s'.unitText = s.unitText)
    (c : Category) : samplesFor s' c = samplesFor s c := by
  have hgroups := UnitGroups.isGrouping_ofUnits s.partition.units
  have hgroups' := UnitGroups.isGrouping_ofUnits s'.partition.units
  have hsame : largestUnits s'.groups c.kinds c.sampleLimit
      = largestUnits s.groups c.kinds c.sampleLimit := by
    apply largestUnits_of_perm (nodup_ids_get hgroups hids)
    exact hgroups.get_perm hgroups' hunits
  rw [samplesFor, samplesFor, hsame, sampleSections_of_unitText htext]

/-- Kind by kind the largest units are chosen, whatever the order of the units of each kind. -/
theorem largestUnits_areLargest (hgroups : groups.IsGrouping units)
    (hids : (units.map (·.id)).Nodup) (kinds : List UnitKind) (limit : Nat) :
    (∃ parts, largestUnits groups kinds limit = parts.flatten ∧
      List.Forall₂ (fun k part => AreLargest (units.filter (·.kind == k)) limit part) kinds
        parts) ∧
    ∀ others : UnitGroups, (∀ k, (others.get k).Perm (groups.get k)) →
      largestUnits others kinds limit = largestUnits groups kinds limit := by
  have hget := nodup_ids_get hgroups hids
  constructor
  · obtain ⟨parts, heq, hparts⟩ := exists_areLargest hget kinds limit
    refine ⟨parts, heq, hparts.imp fun k part hpart => ?_⟩
    rw [Summary.position_natCast, hgroups.get_eq] at hpart
    apply hpart.of_min_eq
    rw [min_assoc, min_self]
  · exact fun others hperm => largestUnits_of_perm hget hperm kinds limit

/-- No methods, a variable, and three functions that stand in no order; the code of two of them is
of one length. -/
def unsorted : UnitGroups := [
  (.method, []),
  (.variable, [⟨3, "x", .variable, 4, 4, 48, 54, "var x;", none, 0, [(4, 4)]⟩]),
  (.function, [
    ⟨1, "b", .function, 2, 2, 15, 29, "function b(){}", none, 0, [(2, 2)]⟩,
    ⟨2, "wide", .function, 3, 3, 30, 47, "function wide(){}", none, 0, [(3, 3)]⟩,
    ⟨0, "a", .function, 1, 1, 0, 14, "function a(){}", none, 0, [(1, 1)]⟩])]

theorem largestUnits_unsorted_areLargest :
    let units := unsorted.flatMap Prod.snd
    let reversed : UnitGroups := unsorted.map fun g => (g.1, g.2.reverse)
    let kinds : List UnitKind := [.function, .base, .variable]
    unsorted.IsGrouping units ∧ (units.map (·.id)).Nodup ∧
      (∃ parts, largestUnits unsorted kinds 2 = parts.flatten ∧
        List.Forall₂ (fun k part => AreLargest (units.filter (·.kind == k)) 2 part) kinds
          parts) ∧
      reversed ≠ unsorted ∧ largestUnits reversed kinds 2 = largestUnits unsorted kinds 2 := by
  intro units reversed kinds
  have hgroups : unsorted.IsGrouping units :=
    UnitGroups.isGrouping_flatMap (by decide) (by decide)
  have hreversed : reversed.IsGrouping (reversed.flatMap Prod.snd) :=
    UnitGroups.isGrouping_flatMap (by decide) (by decide)
  have hids : (units.map (·.id)).Nodup := by decide
  obtain ⟨hparts, hsame⟩ := largestUnits_areLargest hgroups hids kinds 2
  refine ⟨hgroups, hids, hparts, by decide, hsame reversed ?_⟩
  exact hgroups.get_perm hreversed (by decide)

end Dissect.Analysis
