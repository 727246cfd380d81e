import Dissect.Proofs.Partition.LineLayout
import Dissect.Proofs.Partition.Split

namespace Dissect.Partition

open Syntax Text

/-- A top-level unit, the base unit apart, has line `l` in its range. -/
def Claims (p : Partition) (l : Nat) : Prop :=
  ∃ u ∈ p.outermostUnits, holdsLine (u.startLine, u.endLine) l

instance (p : Partition) (l : Nat) : Decidable (p.Claims l) :=
  inferInstanceAs (Decidable (∃ u ∈ p.outermostUnits, _))

def unclaimedLines (p : Partition) : List Nat :=
  (List.range' 1 p.lineCount).filter fun l => ¬ p.Claims l

def baseSpans (p : Partition) : List (Nat × Nat) :=
  (p.units.filter (·.kind == .base)).flatMap (·.spans)

def lineAt (text : String) (l : Nat) : String := (splitLines text)[l - 1]?.getD ""

/-- A unit holds the unclaimed lines of a partition of a source: its spans lie in the source, in
order and with claimed lines between them, its code is these lines, and its octets go from the first
of them to the last. -/
structure HoldsUnclaimed (p : Partition) (source : Bytes) (text : String) (u : SourceUnit) :
    Prop where
  within : ∀ s ∈ u.spans, 1 ≤ s.1 ∧ s.1 ≤ s.2 ∧ s.2 ≤ p.lineCount
  indexed : ∀ s ∈ u.spans, s.2 ≤ (splitLines text).length
  separated : u.spans.Pairwise fun a b => a.2 < b.1 ∧ ∃ l, a.2 < l ∧ l < b.1 ∧ p.Claims l
  lines : splitLines u.code = p.unclaimedLines.map (lineAt text)
  startLine : p.unclaimedLines.head? = some u.startLine
  endLine : p.unclaimedLines.getLast? = some u.endLine
  octets : Utf8.slice source u.startByte u.endByte = Utf8.encode ("\n".intercalate
    ((List.range' u.startLine (u.endLine + 1 - u.startLine)).map (lineAt text)))

/-- A partition covers the lines of a source: each is claimed or in exactly one span of the base
unit, and there is a base unit, the last of the units, exactly if a line is unclaimed. -/
structure CoversLines (p : Partition) (source : Bytes) (text : String) : Prop where
  once : ∀ l, 1 ≤ l → l ≤ p.lineCount →
    p.baseSpans.countP (fun s => holdsLine s l) = if p.Claims l then 0 else 1
  noBase : p.unclaimedLines = [] → ∀ u ∈ p.units, u.kind ≠ .base
  base : p.unclaimedLines ≠ [] → ∃ front u, p.units = front ++ [u] ∧ u.kind = .base ∧
    (∀ v ∈ front, v.kind ≠ .base) ∧ HoldsUnclaimed p source text u

structure IsSweepUnit (units : List SourceUnit) (text : String) (lineCount : Nat)
    (u : SourceUnit) : Prop where
  kind : u.kind = .base
  spans : u.spans = uncoveredSpans (claimedRanges units) lineCount
  startLine : u.spans.head?.map Prod.fst = some u.startLine
  endLine : u.spans.getLast?.map Prod.snd = some u.endLine
  startByte : u.startByte = lineOffset (splitLines text) (u.startLine - 1)
  endByte : u.endByte
    = lineOffset (splitLines text) (u.endLine - 1) + (lineAt text u.endLine).utf8ByteSize
  code : u.code = "\n".intercalate (u.spans.flatMap (linesBetween (splitLines text)))

theorem unclaimedUnit?_eq_none_iff {units : List SourceUnit} {text : String} {lineCount : Nat} :
    unclaimedUnit? units text lineCount = none ↔
      uncoveredSpans (claimedRanges units) lineCount = [] := by
  rw [unclaimedUnit?]
  split <;> simp_all

theorem isSweepUnit_of_eq_some {units : List SourceUnit} {text : String} {lineCount : Nat}
    {u : SourceUnit} (h : unclaimedUnit? units text lineCount = some u) :
    IsSweepUnit units text lineCount u := by
  rw [unclaimedUnit?] at h
  split at h
  · cases h
  · rename_i first rest hspans
    rw [Option.some.injEq] at h
    subst h
    exact ⟨rfl, hspans.symm, rfl, by simp [List.getLast?_cons], rfl, rfl, rfl⟩

/-- The units of a partition are some that the tree gave and the unit that the sweep over their
ranges makes. -/
structure Swept (p : Partition) (units : List SourceUnit) (text : String) : Prop where
  units_eq : p.units = units ++ (unclaimedUnit? units text p.lineCount).toList
  kind : ∀ v ∈ units, v.kind ≠ .base
  sweepable : Sweepable p.lineCount (claimedRanges units)

theorem swept_of_split {parse : Parser} {strict : Bool} {source : Bytes} {file : String}
    {p : Partition} {root : Tree} (hsplit : split parse strict source file = .ok p)
    (hparse : parse source = some root)
    (hroot : ∀ t ∈ root.nodes, t.label.start ≤ t.label.stop) :
    ∃ text found, source = Utf8.encode text ∧ traverse source root = .ok found ∧
      p.lineCount = lineTotal text ∧ p.Swept (unitsOf source found) text := by
  obtain ⟨text, root', found, htext, hparse', hfound, hunits, hcount⟩ := exists_of_split hsplit
  obtain rfl : root = root' := Option.some.inj (hparse.symm.trans hparse')
  have hsource := Utf8.decode_eq_ok_iff.mp htext
  refine ⟨text, found, hsource, hfound, hcount, ?_, ?_, ?_⟩
  · rw [hcount, hunits]
  · exact fun v hv => kind_ne_base_of_mem_unitsOf hfound hv
  · rw [hcount]
    exact sweepable_claimedRanges hfound hsource hroot

section Swept

variable {p : Partition} {units : List SourceUnit} {text : String}

theorem Swept.mem_of_kind_ne_base (h : p.Swept units text) {u : SourceUnit} (hu : u ∈ p.units)
    (hkind : u.kind ≠ .base) : u ∈ units := by
  rw [h.units_eq] at hu
  rcases List.mem_append.mp hu with hu | hu
  · exact hu
  · exact absurd (isSweepUnit_of_eq_some (Option.mem_toList.mp hu)).kind hkind

theorem Swept.mem_outermostUnits_iff (h : p.Swept units text) {u : SourceUnit} :
    u ∈ p.outermostUnits ↔ u ∈ units ∧ u.isOutermost := by
  rw [outermostUnits, List.mem_filter, Bool.and_eq_true, bne_iff_ne]
  constructor
  · rintro ⟨hu, hout, hkind⟩
    exact ⟨h.mem_of_kind_ne_base hu hkind, hout⟩
  · rintro ⟨hu, hout⟩
    exact ⟨h.units_eq ▸ List.mem_append_left _ hu, hout, h.kind u hu⟩

theorem Swept.claims_iff (h : p.Swept units text) (l : Nat) :
    p.Claims l ↔ ∃ r ∈ claimedRanges units, holdsLine r l := by
  simp only [Claims, h.mem_outermostUnits_iff, mem_claimedRanges_iff]
  constructor
  · rintro ⟨u, ⟨hu, hout⟩, hl⟩
    exact ⟨_, ⟨u, hu, hout, rfl⟩, hl⟩
  · rintro ⟨_, ⟨u, hu, hout, rfl⟩, hl⟩
    exact ⟨u, ⟨hu, hout⟩, hl⟩

theorem Swept.baseSpans_eq (h : p.Swept units text) :
    p.baseSpans = uncoveredSpans (claimedRanges units) p.lineCount := by
  have hfilter : units.filter (·.kind == .base) = [] :=
    List.filter_eq_nil_iff.mpr fun v hv => by simpa using h.kind v hv
  rw [baseSpans, h.units_eq, List.filter_append, hfilter, List.nil_append]
  cases hbase : unclaimedUnit? units text p.lineCount with
  | none =>
      rw [unclaimedUnit?_eq_none_iff.mp hbase]
      rfl
  | some u =>
      have hu := isSweepUnit_of_eq_some hbase
      rw [← hu.spans]
      simp [hu.kind]

theorem Swept.exists_baseSpan_iff (h : p.Swept units text) (l : Nat) :
    (∃ s ∈ p.baseSpans, holdsLine s l) ↔ 1 ≤ l ∧ l ≤ p.lineCount ∧ ¬ p.Claims l := by
  rw [h.baseSpans_eq, uncoveredSpans, exists_holdsLine_iff h.sweepable, h.claims_iff]
  simp only [not_exists, not_and]

theorem Swept.bounds (h : p.Swept units text) {s : Nat × Nat} (hs : s ∈ p.baseSpans) :
    1 ≤ s.1 ∧ s.1 ≤ s.2 ∧ s.2 ≤ p.lineCount := by
  rw [h.baseSpans_eq] at hs
  exact bounds_of_mem_uncoveredFrom h.sweepable hs

theorem Swept.pairwise_baseSpans (h : p.Swept units text) :
    p.baseSpans.Pairwise fun a b => a.2 + 1 < b.1 := by
  rw [h.baseSpans_eq]
  exact pairwise_uncoveredFrom h.sweepable

theorem Swept.unclaimedLines_eq (h : p.Swept units text) :
    p.unclaimedLines = lineNumbers p.baseSpans := by
  rw [h.baseSpans_eq, lineNumbers_uncoveredSpans h.sweepable, unclaimedLines]
  apply List.filter_congr
  intro l _
  rw [decide_eq_decide, h.claims_iff]
  exact ⟨fun hno r hr hl => hno ⟨r, hr, hl⟩, fun hno ⟨r, hr, hl⟩ => hno r hr hl⟩

theorem Swept.exists_claimed_between (h : p.Swept units text) {a b : Nat × Nat}
    (ha : a ∈ p.baseSpans) (hb : b ∈ p.baseSpans) (hab : a.2 + 1 < b.1) :
    ∃ l, a.2 < l ∧ l < b.1 ∧ p.Claims l := by
  have hboundsA := h.bounds ha
  have hboundsB := h.bounds hb
  refine ⟨a.2 + 1, by omega, hab, ?_⟩
  have hnone : ¬ ∃ s ∈ p.baseSpans, holdsLine s (a.2 + 1) := by
    rintro ⟨s, hs, hl⟩
    simp only [holdsLine] at hl
    rcases eq_or_apart h.pairwise_baseSpans ha hs with rfl | hapart | hapart <;> omega
  by_contra hno
  exact hnone ((h.exists_baseSpan_iff _).mpr ⟨by omega, by omega, hno⟩)

end Swept

section Lines

variable {source : Bytes} {text : String}

theorem lineAt_eq_getElem {l : Nat} (h : l - 1 < (splitLines text).length) :
    lineAt text l = (splitLines text)[l - 1] := by
  rw [lineAt, List.getElem?_eq_getElem h, Option.getD_some]

theorem flatMap_linesBetween {spans : List (Nat × Nat)} (h : ∀ s ∈ spans, 1 ≤ s.1 ∧ s.1 ≤ s.2)
    (hle : ∀ s ∈ spans, s.2 ≤ (splitLines text).length) :
    spans.flatMap (linesBetween (splitLines text)) = (lineNumbers spans).map (lineAt text) := by
  rw [lineNumbers, List.map_flatMap]
  exact List.flatMap_congr fun s hs => linesBetween_eq_map (h s hs) (hle s hs)

theorem slice_eq_encode_lines (hsource : source = Utf8.encode text) {first last : Nat}
    (hfirst : 1 ≤ first) (hle : first ≤ last) (hlast : last ≤ (splitLines text).length) :
    Utf8.slice source (lineOffset (splitLines text) (first - 1))
        (lineOffset (splitLines text) (last - 1) + (lineAt text last).utf8ByteSize)
      = Utf8.encode ("\n".intercalate
          ((List.range' first (last + 1 - first)).map (lineAt text))) := by
  have hbetween := linesBetween_eq_map (s := (first, last)) ⟨hfirst, hle⟩ hlast
  have hindex : last - 1 < (splitLines text).length := by omega
  have hslice := slice_lineOffset (show first - 1 ≤ last - 1 by omega) hindex
  rw [intercalate_splitLines, ← hsource] at hslice
  rw [lineAt_eq_getElem hindex, hslice, show last - 1 + 1 = last by omega]
  exact congrArg (fun lines => Utf8.encode ("\n".intercalate lines)) hbetween

theorem IsSweepUnit.splitLines_code {units : List SourceUnit} {lineCount : Nat} {u : SourceUnit}
    (hu : IsSweepUnit units text lineCount u)
    (hwithin : ∀ s ∈ u.spans, 1 ≤ s.1 ∧ s.1 ≤ s.2 ∧ s.2 ≤ (splitLines text).length) :
    splitLines u.code = (lineNumbers u.spans).map (lineAt text) := by
  have hhead : (lineNumbers u.spans).head? = some u.startLine := by
    rw [head?_lineNumbers fun s hs => (hwithin s hs).2.1, hu.startLine]
  rw [hu.code, flatMap_linesBetween (fun s hs => ⟨(hwithin s hs).1, (hwithin s hs).2.1⟩)
    fun s hs => (hwithin s hs).2.2]
  apply splitLines_intercalate
  · intro h
    rw [List.map_eq_nil_iff] at h
    simp [h] at hhead
  · intro line hline
    obtain ⟨l, hl, rfl⟩ := List.mem_map.mp hline
    obtain ⟨s, hs, hsl⟩ := mem_lineNumbers_iff.mp hl
    have := hwithin s hs
    simp only [holdsLine] at hsl
    rw [lineAt_eq_getElem (by omega)]
    exact newline_not_mem_of_mem_splitLines (List.getElem_mem _)

end Lines

theorem Swept.holdsUnclaimed {p : Partition} {units : List SourceUnit} {source : Bytes}
    {text : String} {u : SourceUnit} (h : p.Swept units text)
    (hsource : source = Utf8.encode text) (hcount : p.lineCount = lineTotal text)
    (hu : IsSweepUnit units text p.lineCount u) : HoldsUnclaimed p source text u := by
  have hspans : u.spans = p.baseSpans := hu.spans.trans h.baseSpans_eq.symm
  have hle : p.lineCount ≤ (splitLines text).length := hcount ▸ lineTotal_le_length text
  have hwithin : ∀ s ∈ u.spans, 1 ≤ s.1 ∧ s.1 ≤ s.2 ∧ s.2 ≤ p.lineCount :=
    fun s hs => h.bounds (hspans ▸ hs)
  have hindexed : ∀ s ∈ u.spans, s.2 ≤ (splitLines text).length :=
    fun s hs => (hwithin s hs).2.2.trans hle
  have hlines : p.unclaimedLines = lineNumbers u.spans := by rw [h.unclaimedLines_eq, hspans]
  have hhead : p.unclaimedLines.head? = some u.startLine := by
    rw [hlines, head?_lineNumbers fun s hs => (hwithin s hs).2.1, hu.startLine]
  have hlast : p.unclaimedLines.getLast? = some u.endLine := by
    rw [hlines, getLast?_lineNumbers fun s hs => (hwithin s hs).2.1, hu.endLine]
  refine ⟨hwithin, hindexed, ?_, ?_, hhead, hlast, ?_⟩
  · rw [hspans]
    refine h.pairwise_baseSpans.imp_of_mem fun ha hb hab => ⟨by omega, ?_⟩
    exact h.exists_claimed_between ha hb hab
  · rw [hlines]
    exact hu.splitLines_code fun s hs =>
      ⟨(hwithin s hs).1, (hwithin s hs).2.1, hindexed s hs⟩
  · have hmem : ∀ l ∈ p.unclaimedLines, 1 ≤ l ∧ l ≤ p.lineCount := by
      intro l hl
      have := List.mem_range'_1.mp (List.mem_filter.mp hl).1
      omega
    have hfirst := hmem _ (List.mem_of_head? hhead)
    have hend := hmem _ (List.mem_of_getLast? hlast)
    have hordered : u.startLine ≤ u.endLine := by
      obtain ⟨tail, htail⟩ := List.head?_eq_some_iff.mp hhead
      have hpairs : p.unclaimedLines.Pairwise (· < ·) :=
        List.Pairwise.filter _ List.pairwise_lt_range'
      have hendMem := List.mem_of_getLast? hlast
      rw [htail] at hpairs hendMem
      rcases List.mem_cons.mp hendMem with hend | hend
      · exact hend.ge
      · exact (List.rel_of_pairwise_cons hpairs hend).le
    rw [hu.startByte, hu.endByte]
    exact slice_eq_encode_lines hsource hfirst.1 hordered (hend.2.trans hle)

/-- The lines of a source whose nodes lie in it are covered by its partition. -/
theorem split_coversLines {parse : Parser} {strict : Bool} {source : Bytes} {file : String}
    {p : Partition} {root : Tree} (hsplit : split parse strict source file = .ok p)
    (hparse : parse source = some root) (hroot : root.Within source.length) :
    ∃ text, Utf8.decode source = .ok text ∧ p.lineCount = lineTotal text ∧
      CoversLines p source text := by
  obtain ⟨text, found, hsource, -, hcount, h⟩ :=
    swept_of_split hsplit hparse fun t ht => (hroot t ht).1
  refine ⟨text, Utf8.decode_eq_ok_iff.mpr hsource, hcount, ?_, ?_, ?_⟩
  · intro l hl hle
    rw [countP_holdsLine h.pairwise_baseSpans]
    simp only [h.exists_baseSpan_iff, hl, hle, true_and, ite_not]
  · intro hnone u hu
    rw [h.unclaimedLines_eq, lineNumbers_eq_nil_iff fun s hs => (h.bounds hs).2.1,
      h.baseSpans_eq] at hnone
    rw [h.units_eq, unclaimedUnit?_eq_none_iff.mpr hnone, Option.toList_none, List.append_nil] at hu
    exact h.kind u hu
  · intro hsome
    have hne : unclaimedUnit? (unitsOf source found) text p.lineCount ≠ none := by
      intro hnone
      apply hsome
      rw [h.unclaimedLines_eq, h.baseSpans_eq, unclaimedUnit?_eq_none_iff.mp hnone]
      rfl
    obtain ⟨u, hbase⟩ := Option.ne_none_iff_exists'.mp hne
    have hu := isSweepUnit_of_eq_some hbase
    have hunits := h.units_eq
    rw [hbase] at hunits
    exact ⟨_, u, hunits, hu.kind, h.kind, h.holdsUnclaimed hsource hcount hu⟩

/-- Two arrow functions that overlap, and one in the row behind the last of five octets. -/
def arrows : Tree :=
  .node ⟨"program", true, false, false, 0, 5, none⟩
    [.node ⟨"arrow_function", true, false, false, 0, 1, none⟩ [],
      .node ⟨"arrow_function", true, false, false, 0, 3, none⟩ [],
      .node ⟨"arrow_function", true, false, false, 5, 5, none⟩ []]

theorem split_arrows_coversLines :
    let source := Utf8.encode "a\n\nb\n"
    ∃ p, split (fun _ => some arrows) true source "input.js" = .ok p ∧
      arrows.Within source.length ∧
      ∃ text, Utf8.decode source = .ok text ∧ p.lineCount = lineTotal text ∧
        CoversLines p source text := by
  intro source
  have hfound : ∃ found, traverse source arrows = .ok found := by
    rw [traverse_eq_findings]
    exact ⟨_, rfl⟩
  obtain ⟨found, hfound⟩ := hfound
  have hsplit : ∃ p, split (fun _ => some arrows) true source "input.js" = .ok p := by
    rw [split, Utf8.decode_eq_ok_iff.mpr rfl]
    simp only [ofTree, hfound]
    exact ⟨_, rfl⟩
  obtain ⟨p, hp⟩ := hsplit
  have hwithin : arrows.Within source.length := by decide
  exact ⟨p, hp, hwithin, split_coversLines hp rfl hwithin⟩

end Dissect.Partition
