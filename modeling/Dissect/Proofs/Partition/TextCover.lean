import Dissect.Proofs.Partition.LineCover

namespace Dissect.Partition

open Syntax Text

/-- A character of a text, by what stands before it and behind it. -/
structure Place (text : String) where
  before : List Char
  char : Char
  after : List Char
  spells : text.toList = before ++ char :: after

namespace Place

variable {text : String}

def startByte (x : Place text) : Nat := (x.before.flatMap String.utf8EncodeChar).length

def endByte (x : Place text) : Nat := x.startByte + (String.utf8EncodeChar x.char).length

def line (x : Place text) : Nat := x.before.count '\n' + 1

def Within (x : Place text) (u : SourceUnit) : Prop :=
  u.startByte ≤ x.startByte ∧ x.endByte ≤ u.endByte

/-- The character stands on the first line of a unit and before it, or on its last line and behind
it. -/
def Beside (x : Place text) (u : SourceUnit) : Prop :=
  (x.line = u.startLine ∧ x.startByte < u.startByte) ∨
    (x.line = u.endLine ∧ u.endByte < x.endByte)

theorem encode_eq (x : Place text) :
    Utf8.encode text = x.before.flatMap String.utf8EncodeChar ++
      (String.utf8EncodeChar x.char ++ x.after.flatMap String.utf8EncodeChar) := by
  rw [Utf8.encode, x.spells, List.flatMap_append, List.flatMap_cons]

theorem lineFeedsBefore_eq (x : Place text) {n : Nat}
    (h : n < (String.utf8EncodeChar x.char).length) :
    lineFeedsBefore (Utf8.encode text) (x.startByte + n) + 1 = x.line := by
  have htake : (Utf8.encode text).take (x.startByte + n)
      = x.before.flatMap String.utf8EncodeChar ++ (String.utf8EncodeChar x.char).take n := by
    rw [x.encode_eq, startByte, List.take_length_add_append, List.take_append_of_le_length h.le]
  have hinside : ((String.utf8EncodeChar x.char).take n).countP (· == 10) = 0 := by
    by_cases hc : x.char = '\n'
    · have hlength : (String.utf8EncodeChar x.char).length = 1 := by rw [hc]; rfl
      rw [show n = 0 by omega, List.take_zero, List.countP_nil]
    · have hle := (List.take_sublist n (String.utf8EncodeChar x.char)).countP_le (p := (· == 10))
      rw [count_encodeChar, if_neg hc] at hle
      omega
  rw [lineFeedsBefore, htake, List.countP_append, countP_encode, hinside, line, Nat.add_zero]

theorem line_le (x : Place text) : x.line ≤ lineTotal text := line_le_lineTotal x.spells

theorem endByte_pos (x : Place text) : x.startByte < x.endByte := by
  have := String.utf8EncodeChar_ne_nil (c := x.char)
  have := List.length_pos_iff.mpr this
  rw [endByte]
  omega

end Place

/-- The text of a character is in some unit: in the range of one, the base unit apart, or on a line
of the base unit. -/
def Keeps {text : String} (p : Partition) (x : Place text) : Prop :=
  (∃ u ∈ p.units, u.kind ≠ .base ∧ x.Within u) ∨ ∃ s ∈ p.baseSpans, holdsLine s x.line

theorem Place.beside_of_not_within {text : String} {x : Place text} {u : SourceUnit}
    (hstart : u.startLine = lineFeedsBefore (Utf8.encode text) u.startByte + 1)
    (hend : u.endLine = lineFeedsBefore (Utf8.encode text) u.endByte + 1)
    (hline : holdsLine (u.startLine, u.endLine) x.line) (hout : ¬ x.Within u) : x.Beside u := by
  have hpos := x.endByte_pos
  have hlength : x.endByte - x.startByte = (String.utf8EncodeChar x.char).length := by
    rw [Place.endByte]
    omega
  have hat : lineFeedsBefore (Utf8.encode text) x.startByte + 1 = x.line :=
    x.lineFeedsBefore_eq (n := 0) (by omega)
  simp only [holdsLine] at hline
  rw [Place.Within, not_and_or, not_le, not_le] at hout
  rcases hout with hbefore | hbehind
  · have := lineFeedsBefore_mono (Utf8.encode text) hbefore.le
    exact .inl ⟨by omega, hbefore⟩
  · refine .inr ⟨?_, hbehind⟩
    rcases le_total u.endByte x.startByte with hle | hge
    · have := lineFeedsBefore_mono (Utf8.encode text) hle
      omega
    · have := x.lineFeedsBefore_eq (n := u.endByte - x.startByte) (by omega)
      rw [Nat.add_sub_cancel' hge] at this
      omega

theorem exists_outermost_of_mem_unitsOf {source : Bytes} {root : Tree} {found : List Finding}
    (hnested : root.Nested) (h : traverse source root = .ok found) {u : SourceUnit}
    (hu : u ∈ unitsOf source found) :
    ∃ v ∈ unitsOf source found, v.isOutermost ∧ v.startByte ≤ u.startByte ∧
      u.endByte ≤ v.endByte := by
  obtain ⟨i, hi, rfl⟩ := mem_unitsOf_iff.mp hu
  rw [traverse_eq_findings] at h
  obtain ⟨-, -, e, he, hdepth, hinside⟩ :=
    exists_outer_of_mem_findings hnested h (List.getElem_mem hi)
  obtain ⟨j, hj, rfl⟩ := List.mem_iff_getElem.mp he
  exact ⟨unitOf source j found[j], mem_unitsOf_iff.mpr ⟨j, hj, rfl⟩, by
    simp [SourceUnit.isOutermost, unitOf, hdepth], hinside⟩

def callback : Tree :=
  .node ⟨"program", true, false, false, 0, 8, none⟩
    [.node ⟨"expression_statement", true, false, false, 0, 8, none⟩
      [.node ⟨"call_expression", true, false, false, 0, 8, none⟩
        [.node ⟨"identifier", true, false, false, 0, 1, some "function"⟩ [],
          .node ⟨"arguments", true, false, false, 1, 8, some "arguments"⟩
            [.node ⟨"(", false, false, false, 1, 2, none⟩ [],
              .node ⟨"arrow_function", true, false, false, 2, 7, none⟩
                [.node ⟨"formal_parameters", true, false, false, 2, 4, some "parameters"⟩
                    [.node ⟨"(", false, false, false, 2, 3, none⟩ [],
                      .node ⟨")", false, false, false, 3, 4, none⟩ []],
                  .node ⟨"=>", false, false, false, 4, 6, none⟩ [],
                  .node ⟨"number", true, false, false, 6, 7, some "body"⟩ []],
              .node ⟨")", false, false, false, 7, 8, none⟩ []]]]]

theorem exists_split_callback :
    ∃ p, split (fun _ => some callback) true (Utf8.encode "f(()=>1)") "input.js" = .ok p ∧
      ∀ u ∈ p.units, u.kind ≠ .base ∧ u.startByte = 2 := by
  have hfound : ∃ d, traverse (Utf8.encode "f(()=>1)") callback = .ok [d] ∧
      d.kind = .arrowFunction ∧ d.startByte = 2 ∧ d.startLine = 1 ∧ d.endLine = 1 ∧
      d.depth = 0 := by
    rw [traverse_eq_findings]
    exact ⟨_, rfl, rfl, rfl, rfl, rfl, rfl⟩
  obtain ⟨d, hfound, hkind, hstart, hfirst, hlast, hdepth⟩ := hfound
  have hnone : unclaimedUnit? (unitsOf (Utf8.encode "f(()=>1)") [d]) "f(()=>1)"
      (lineTotal "f(()=>1)") = none := by
    rw [unclaimedUnit?_eq_none_iff, lineTotal_eq]
    simp [unitsOf, unitOf, claimedRanges, SourceUnit.isOutermost, uncoveredSpans, uncoveredFrom,
      hfirst, hlast, hdepth]
  rw [split, Utf8.decode_eq_ok_iff.mpr rfl]
  simp only [ofTree, hfound]
  refine ⟨_, rfl, ?_⟩
  rw [hnone]
  simp [ofUnits, unitsOf, unitOf, hkind, hstart]

/-- A character is kept exactly if it lies in a top-level unit or no top-level unit claims its line;
a character that is not kept stands beside a top-level unit. -/
theorem split_keeps_iff {parse : Parser} {strict : Bool} {source : Bytes} {file : String}
    {p : Partition} {root : Tree} (hsplit : split parse strict source file = .ok p)
    (hparse : parse source = some root) (hroot : root.Nested) :
    ∃ text, Utf8.decode source = .ok text ∧ ∀ x : Place text,
      (p.Keeps x ↔ (∃ u ∈ p.outermostUnits, x.Within u) ∨ ¬ p.Claims x.line) ∧
        (¬ p.Keeps x → ∃ u ∈ p.outermostUnits, x.Beside u) := by
  obtain ⟨text, found, hsource, hfound, hcount, h⟩ :=
    swept_of_split hsplit hparse fun t ht => (hroot t ht).1
  refine ⟨text, Utf8.decode_eq_ok_iff.mpr hsource, fun x => ?_⟩
  have hspan : (∃ s ∈ p.baseSpans, holdsLine s x.line) ↔ ¬ p.Claims x.line := by
    rw [h.exists_baseSpan_iff, hcount]
    exact ⟨fun hl => hl.2.2, fun hl => ⟨Nat.le_add_left 1 _, x.line_le, hl⟩⟩
  have hkeeps : p.Keeps x ↔ (∃ u ∈ p.outermostUnits, x.Within u) ∨ ¬ p.Claims x.line := by
    rw [Keeps, hspan]
    refine or_congr_left ⟨?_, ?_⟩
    · rintro ⟨u, hu, hkind, hin⟩
      obtain ⟨v, hv, hout, hstart, hend⟩ :=
        exists_outermost_of_mem_unitsOf hroot hfound (h.mem_of_kind_ne_base hu hkind)
      exact ⟨v, h.mem_outermostUnits_iff.mpr ⟨hv, hout⟩, hstart.trans hin.1, hin.2.trans hend⟩
    · rintro ⟨u, hu, hin⟩
      obtain ⟨hu, -⟩ := h.mem_outermostUnits_iff.mp hu
      exact ⟨u, h.units_eq ▸ List.mem_append_left _ hu, h.kind u hu, hin⟩
  refine ⟨hkeeps, fun hlost => ?_⟩
  rw [hkeeps, not_or, not_not] at hlost
  obtain ⟨hnone, u, hu, hline⟩ := hlost
  obtain ⟨t, -, i, d, hd, rfl⟩ :=
    exists_node_of_mem_unitsOf hfound (h.mem_outermostUnits_iff.mp hu).1
  refine ⟨_, hu, Place.beside_of_not_within ?_ ?_ hline fun hin => hnone ⟨_, hu, hin⟩⟩
  · simp only [unitOf, hd.startLine, hd.startByte, hsource]
  · simp only [unitOf, hd.endLine, hd.endByte, hsource]

theorem split_callback_keeps_iff :
    let source := Utf8.encode "f(()=>1)"
    ∃ p, split (fun _ => some callback) true source "input.js" = .ok p ∧ callback.Nested ∧
      ∃ text, Utf8.decode source = .ok text ∧ ∀ x : Place text,
        (p.Keeps x ↔ (∃ u ∈ p.outermostUnits, x.Within u) ∨ ¬ p.Claims x.line) ∧
          (¬ p.Keeps x → ∃ u ∈ p.outermostUnits, x.Beside u) := by
  obtain ⟨p, hp, -⟩ := exists_split_callback
  have hnested : callback.Nested := by decide
  exact ⟨p, hp, hnested, split_keeps_iff hp rfl hnested⟩

/-- The name of the function that is called is in no unit. -/
theorem split_callback_loses_callee :
    let source := Utf8.encode "f(()=>1)"
    ∃ p, split (fun _ => some callback) true source "input.js" = .ok p ∧ callback.Nested ∧
      callback.Within source.length ∧ Utf8.decode source = .ok "f(()=>1)" ∧
      ∃ x : Place "f(()=>1)", isBlank x.char = false ∧ ¬ p.Keeps x := by
  obtain ⟨p, hp, hunits⟩ := exists_split_callback
  refine ⟨p, hp, by decide, by decide, Utf8.decode_eq_ok_iff.mpr rfl,
    ⟨[], 'f', "(()=>1)".toList, rfl⟩, by decide, ?_⟩
  rintro (⟨u, hu, -, hstart, -⟩ | ⟨s, hs, -⟩)
  · rw [(hunits u hu).2] at hstart
    exact absurd hstart (by decide)
  · obtain ⟨u, hu, -⟩ := List.mem_flatMap.mp hs
    obtain ⟨hu, hkind⟩ := List.mem_filter.mp hu
    exact (hunits u hu).1 (beq_iff_eq.mp hkind)

end Dissect.Partition
