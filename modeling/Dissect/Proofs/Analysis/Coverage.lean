import Dissect.Analysis.Stats
import Dissect.Proofs.Partition.Described
import Dissect.Proofs.Partition.Groups
import Dissect.Proofs.Partition.LineCover

namespace Dissect

open Syntax Text

namespace Analysis

open Dissect.Partition

def claimedLines (p : Partition) : List Nat :=
  (List.range' 1 p.lineCount).filter fun l => p.Claims l

/-- The lines behind the last that top-level units claim, up to line `last`. -/
def linesBeyond (p : Partition) (last : Nat) : List Nat :=
  (List.range' (p.lineCount + 1) (last - p.lineCount)).filter fun l => p.Claims l

variable {p : Partition}

theorem mem_claiming_iff {u : SourceUnit} : u ∈ claiming p.groups ↔ u ∈ p.outermostUnits := by
  have hgroups := UnitGroups.isGrouping_ofUnits p.units
  simp only [claiming, Partition.groups, List.mem_flatMap, List.mem_filter,
    Partition.outermostUnits, hgroups.mem_iff, Bool.and_eq_true, bne_iff_ne]
  constructor
  · rintro ⟨g, ⟨hg, hkind⟩, hu, hout⟩
    have hmem := hu
    rw [hgroups.group g hg, List.mem_filter, beq_iff_eq] at hmem
    exact ⟨⟨g, hg, hmem.2.symm, hu⟩, hout, hmem.2 ▸ hkind⟩
  · rintro ⟨⟨g, hg, hkind, hu⟩, hout, hbase⟩
    exact ⟨g, ⟨hg, hkind ▸ hbase⟩, hu, hout⟩

theorem isClaimed_iff {l : Nat} : isClaimed (claiming p.groups) l ↔ p.Claims l := by
  simp only [isClaimed, List.any_eq_true, mem_claiming_iff, Bool.and_eq_true, decide_eq_true_eq]
  rfl

theorem le_foldl_max {ns : List Nat} {n m : Nat} (h : n ≤ m ∨ n ∈ ns) : n ≤ ns.foldl max m := by
  induction ns generalizing m with
  | nil => exact h.resolve_right List.not_mem_nil
  | cons k ns ih =>
      rcases h with h | h
      · exact ih (.inl (h.trans (Nat.le_max_left m k)))
      · rcases List.mem_cons.mp h with rfl | h
        · exact ih (.inl (Nat.le_max_right m n))
        · exact ih (.inr h)

theorem countClaimed_eq (hstart : ∀ u ∈ p.outermostUnits, 1 ≤ u.startLine) :
    ∃ last, (∀ u ∈ p.outermostUnits, u.endLine ≤ last) ∧
      countClaimed p.groups = (claimedLines p).length + (linesBeyond p last).length := by
  let last := ((claiming p.groups).map (·.endLine)).foldl max 0
  have hlast : ∀ u ∈ p.outermostUnits, u.endLine ≤ last :=
    fun u hu => le_foldl_max (.inr (List.mem_map_of_mem (mem_claiming_iff.mpr hu)))
  have hbounds : ∀ l, p.Claims l → 1 ≤ l ∧ l ≤ last := by
    rintro l ⟨u, hu, hl⟩
    exact ⟨(hstart u hu).trans hl.1, hl.2.trans (hlast u hu)⟩
  have hlines : (List.range (last + 1)).filter (fun l => p.Claims l)
      = claimedLines p ++ linesBeyond p last := by
    refine (List.pairwise_lt_range.filter _).eq_of_mem_iff ?_ fun l => ?_
    · rw [claimedLines, linesBeyond, List.pairwise_append]
      refine ⟨List.Pairwise.filter _ List.pairwise_lt_range',
        List.Pairwise.filter _ List.pairwise_lt_range', ?_⟩
      intro a ha b hb
      have := List.mem_range'_1.mp (List.mem_filter.mp ha).1
      have := List.mem_range'_1.mp (List.mem_filter.mp hb).1
      omega
    · simp only [claimedLines, linesBeyond, List.mem_append, List.mem_filter, List.mem_range,
        List.mem_range'_1, decide_eq_true_eq, ← or_and_right]
      refine and_congr_left fun hl => ?_
      have := hbounds l hl
      omega
  refine ⟨last, hlast, ?_⟩
  rw [countClaimed, ← List.length_append, ← hlines, ← List.countP_eq_length_filter]
  refine List.countP_congr fun l _ => ?_
  rw [isClaimed_iff, decide_eq_true_eq]

theorem length_claimedLines_add (p : Partition) :
    (claimedLines p).length + p.unclaimedLines.length = p.lineCount := by
  have hsplit := List.length_eq_length_filter_add (l := List.range' 1 p.lineCount)
    fun l => decide (p.Claims l)
  rw [List.length_range'] at hsplit
  rw [hsplit, claimedLines, unclaimedLines]
  simp

theorem linesBeyond_eq_nil_iff {last : Nat} (hlast : ∀ u ∈ p.outermostUnits, u.endLine ≤ last)
    (hordered : ∀ u ∈ p.outermostUnits, u.startLine ≤ u.endLine) :
    linesBeyond p last = [] ↔ ∀ u ∈ p.outermostUnits, u.endLine ≤ p.lineCount := by
  rw [linesBeyond, List.filter_eq_nil_iff]
  constructor
  · intro hnone u hu
    by_contra hbeyond
    have hle := hlast u hu
    refine hnone u.endLine (List.mem_range'_1.mpr (by omega)) (decide_eq_true ?_)
    exact ⟨u, hu, hordered u hu, le_rfl⟩
  · intro hend l hl hclaims
    obtain ⟨u, hu, -, hle⟩ := of_decide_eq_true hclaims
    have := hend u hu
    have := List.mem_range'_1.mp hl
    dsimp only at hle
    omega

theorem lineCount_eq {u : SourceUnit} (h : ∀ s ∈ u.spans, s.1 ≤ s.2) :
    u.lineCount = (lineNumbers u.spans).length := by
  rw [SourceUnit.lineCount]
  revert h
  generalize u.spans = spans
  intro h
  induction spans with
  | nil => rfl
  | cons s rest ih =>
      obtain ⟨hs, hrest⟩ := List.forall_mem_cons.mp h
      rw [List.foldr_cons, ih hrest, lineNumbers, lineNumbers, List.flatMap_cons,
        List.length_append, List.length_range']
      omega

def baseLineCount (p : Partition) : Int := p.base?.elim 0 SourceUnit.lineCount

theorem baseLineCount_eq {units : List SourceUnit} {text : String} (h : p.Swept units text) :
    baseLineCount p = p.unclaimedLines.length := by
  have hnone : units.find? (·.kind == .base) = none :=
    List.find?_eq_none.mpr fun u hu => by simpa using h.kind u hu
  have hbase : p.base? = unclaimedUnit? units text p.lineCount := by
    rw [Partition.base?, h.units_eq, List.find?_append, hnone, Option.none_or]
    cases hunit : unclaimedUnit? units text p.lineCount with
    | none => rfl
    | some u => simp [(isSweepUnit_of_eq_some hunit).kind]
  rw [baseLineCount, hbase, h.unclaimedLines_eq]
  cases hunit : unclaimedUnit? units text p.lineCount with
  | none =>
      rw [h.baseSpans_eq, unclaimedUnit?_eq_none_iff.mp hunit]
      rfl
  | some u =>
      have hspans : u.spans = p.baseSpans :=
        (isSweepUnit_of_eq_some hunit).spans.trans h.baseSpans_eq.symm
      rw [← hspans]
      exact lineCount_eq fun s hs => (h.bounds (hspans ▸ hs)).2.1

/-- The lines that top-level units claim and the lines of the base unit make up the lines of the
source. -/
structure CoversOnce (p : Partition) (s : Stats) : Prop where
  lines : s.coveredLines + baseLineCount p = p.lineCount
  covered_le : s.coveredLines ≤ p.lineCount

/-- The counts are those of the units by their kinds. -/
structure CountsUnits (p : Partition) (s : Stats) : Prop where
  kinds : (s.counts.map Prod.fst).Nodup
  count : ∀ c ∈ s.counts, c.2 = p.units.countP (·.kind == c.1)
  sum : (s.counts.map Prod.snd).sum = p.units.length
  total : s.total = p.units.length

theorem sum_length_filter (groups : UnitGroups) :
    ((groups.filter fun g => !g.2.isEmpty).map fun g => g.2.length).sum
      = (groups.map fun g => g.2.length).sum := by
  induction groups with
  | nil => rfl
  | cons g rest ih =>
      obtain ⟨k, us⟩ := g
      cases us with
      | nil => simpa using ih
      | cons u us => simpa using ih

theorem countsUnits_of (p : Partition) : CountsUnits p (Stats.of p.groups p.lineCount) := by
  have hgroups := UnitGroups.isGrouping_ofUnits p.units
  have hsum : ((Stats.of p.groups p.lineCount).counts.map Prod.snd).sum = p.units.length := by
    rw [← UnitGroups.sum_length_ofUnits p.units, ← sum_length_filter]
    simp only [Stats.of, List.map_map]
    rfl
  refine ⟨?_, ?_, hsum, ?_⟩
  · have hsub := (List.filter_sublist (p := fun g => !g.2.isEmpty) (l := p.groups)).map Prod.fst
    simpa [Stats.of, List.map_map, Function.comp_def] using hgroups.kinds.sublist hsub
  · intro c hc
    obtain ⟨g, hg, rfl⟩ := List.mem_map.mp hc
    rw [hgroups.group g (List.mem_filter.mp hg).1, List.countP_eq_length_filter]
  · rw [← hsum, List.sum_eq_foldr, List.foldr_map]
    rfl

/-- The two counts of lines agree exactly if no top-level unit ends behind the last line. -/
theorem split_stats_coversOnce_iff {parse : Parser} {strict : Bool} {source : Bytes} {file : String}
    {root : Tree} (hsplit : split parse strict source file = .ok p)
    (hparse : parse source = some root)
    (hroot : ∀ t ∈ root.nodes, t.label.start ≤ t.label.stop) :
    CountsUnits p (Stats.of p.groups p.lineCount) ∧
      ((∀ u ∈ p.outermostUnits, u.endLine ≤ p.lineCount) ↔
        CoversOnce p (Stats.of p.groups p.lineCount)) := by
  obtain ⟨text, found, -, hfound, -, h⟩ := swept_of_split hsplit hparse hroot
  refine ⟨countsUnits_of p, ?_⟩
  have hranges : ∀ u ∈ p.outermostUnits, 1 ≤ u.startLine ∧ u.startLine ≤ u.endLine := by
    intro u hu
    obtain ⟨hu, hout⟩ := h.mem_outermostUnits_iff.mp hu
    refine ⟨?_, h.sweepable.inOrder _ (mem_claimedRanges_iff.mpr ⟨u, hu, hout, rfl⟩)⟩
    obtain ⟨t, -, i, d, hd, rfl⟩ := exists_node_of_mem_unitsOf hfound hu
    simp only [unitOf, hd.startLine]
    omega
  obtain ⟨last, hlast, hcount⟩ := countClaimed_eq fun u hu => (hranges u hu).1
  have hlines := length_claimedLines_add p
  have hbase := baseLineCount_eq h
  have hbeyond := linesBeyond_eq_nil_iff hlast fun u hu => (hranges u hu).2
  have hcovered : (Stats.of p.groups p.lineCount).coveredLines
      = (claimedLines p).length + (linesBeyond p last).length := hcount
  rw [← hbeyond, ← List.length_eq_zero_iff]
  constructor
  · intro hnone
    exact ⟨by omega, by omega⟩
  · rintro ⟨hagree, -⟩
    omega

def nestedArrows : Tree :=
  .node ⟨"program", true, false, false, 0, 6, none⟩
    [.node ⟨"arrow_function", true, false, false, 0, 1, none⟩ [],
      .node ⟨"arrow_function", true, false, false, 0, 3, none⟩ []]

theorem split_nestedArrows_coversOnce :
    ∃ p, split (fun _ => some nestedArrows) true (Utf8.encode "a\n\nb\nc") "input.js" = .ok p ∧
      (∀ t ∈ nestedArrows.nodes, t.label.start ≤ t.label.stop) ∧
      CountsUnits p (Stats.of p.groups p.lineCount) ∧
      CoversOnce p (Stats.of p.groups p.lineCount) := by
  have hok : (findings (Utf8.encode "a\n\nb\nc") none 0 nestedArrows).isOk := by decide +kernel
  obtain ⟨p, hp⟩ := exists_split_of_isOk hok rfl true "input.js"
  have hroot : ∀ t ∈ nestedArrows.nodes, t.label.start ≤ t.label.stop := by decide
  obtain ⟨hcounts, hcovers⟩ := split_stats_coversOnce_iff hp rfl hroot
  refine ⟨p, hp, hroot, hcounts, hcovers.mp fun u hu => ?_⟩
  obtain ⟨text, found, htext, hfound, hcount, h⟩ := swept_of_split hp rfl hroot
  obtain ⟨t, ht, i, d, hd, rfl⟩ :=
    exists_node_of_mem_unitsOf hfound (h.mem_outermostUnits_iff.mp hu).1
  obtain rfl : "a\n\nb\nc" = text :=
    Except.ok.inj ((Utf8.decode_eq_ok_iff.mpr rfl).symm.trans (Utf8.decode_eq_ok_iff.mpr htext))
  have hends : ∀ t ∈ nestedArrows.nodes,
      lineFeedsBefore (Utf8.encode "a\n\nb\nc") t.label.stop + 1 ≤ 4 := by decide +kernel
  have hfour : lineTotal "a\n\nb\nc" = 4 := by decide +kernel
  rw [hcount, hfour]
  simp only [unitOf, hd.endLine]
  exact hends t ht

end Analysis

end Dissect
