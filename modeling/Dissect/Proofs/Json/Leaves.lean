import Dissect.Json.Parser
import Dissect.Json.Printer

namespace Dissect.Json

theorem hexValue?_digitChar {d : Nat} (h : d < 16) : Text.hexValue? (Nat.digitChar d) = some d := by
  have hall : ∀ d < 16, Text.hexValue? (Nat.digitChar d) = some d := by decide
  exact hall d h

theorem hexUnit?_hexDigits {n : Nat} (h : n < 0x10000) (rest : List Char) :
    hexUnit? (Text.hexDigits 4 n ++ rest) = some (n, rest) := by
  simp only [Text.hexDigits, List.nil_append, List.cons_append, hexUnit?]
  rw [hexValue?_digitChar (by omega), hexValue?_digitChar (by omega),
    hexValue?_digitChar (by omega), hexValue?_digitChar (by omega)]
  simp only [Option.bind_eq_bind, Option.bind_some, Option.pure_def, Option.some.injEq,
    Prod.mk.injEq, and_true]
  omega

theorem numberEscape_unit {n : Nat} {rest : List Char} (h : n < 0x10000)
    (hhigh : Text.isHighSurrogate n = false) (hrest : rest ≠ []) :
    numberEscape (Text.hexDigits 4 n ++ rest) = .ok (Text.unitChar n, rest) := by
  obtain ⟨c, cs, rfl⟩ := List.exists_cons_of_ne_nil hrest
  rw [numberEscape, hexUnit?_hexDigits h]
  simp [hhigh]

theorem numberEscape_pair {high low : Nat} {rest : List Char} (hhigh : Text.isHighSurrogate high)
    (hlow : Text.isLowSurrogate low) (hrest : rest ≠ []) :
    numberEscape (Text.hexDigits 4 high ++ (unitEscape low ++ rest))
      = .ok (Text.pairChar high low, rest) := by
  obtain ⟨c, cs, rfl⟩ := List.exists_cons_of_ne_nil hrest
  have hhigh' : high < 0x10000 := by
    simp only [Text.isHighSurrogate, Bool.and_eq_true, decide_eq_true_eq] at hhigh
    omega
  have hlow' : low < 0x10000 := by
    simp only [Text.isLowSurrogate, Bool.and_eq_true, decide_eq_true_eq] at hlow
    omega
  rw [numberEscape, hexUnit?_hexDigits hhigh', unitEscape]
  simp only [List.cons_append, hhigh, hexUnit?_hexDigits hlow', hlow, if_true]

theorem stringOnto_plain (opened found rest : List Char) {c : Char} (hquote : c ≠ '"')
    (hslash : c ≠ '\\') (hc : 32 ≤ c.toNat) :
    stringOnto opened found (c :: rest) = stringOnto opened (c :: found) rest := by
  rw [stringOnto.eq_def]
  simp only [beq_iff_eq, hquote, hslash, if_false, if_neg (Nat.not_lt.mpr hc)]

theorem stringOnto_letter (opened found rest : List Char) {c e : Char} (he : e ≠ 'u')
    (h : simpleEscape? e = some c) :
    stringOnto opened found ('\\' :: e :: rest) = stringOnto opened (c :: found) rest := by
  rw [stringOnto]
  simp [he, h]

theorem stringOnto_number (opened found : List Char) {cs rest : List Char} {c : Char}
    (h : numberEscape cs = .ok (c, rest)) :
    stringOnto opened found ('\\' :: 'u' :: cs) = stringOnto opened (c :: found) rest := by
  rw [stringOnto]
  simp only [beq_iff_eq, Char.reduceEq, if_false, if_true]
  split
  · rename_i f hf
    rw [h] at hf
    cases hf
  · rename_i d after hd
    rw [h] at hd
    cases hd
    rfl

inductive Escaped (c : Char) : List Char → Prop
  | letter {e : Char} (hu : e ≠ 'u') (h : simpleEscape? e = some c) (hink : 32 ≤ e.toNat)
      (hascii : e.toNat < 127) : Escaped c ['\\', e]
  | plain (hquote : c ≠ '"') (hslash : c ≠ '\\') (hink : 32 ≤ c.toNat) (hascii : c.toNat < 127) :
      Escaped c [c]
  | unit {n : Nat} (h : n < 0x10000) (hhigh : Text.isHighSurrogate n = false)
      (hc : Text.unitChar n = c) : Escaped c (unitEscape n)
  | pair {high low : Nat} (hhigh : Text.isHighSurrogate high) (hlow : Text.isLowSurrogate low)
      (hc : Text.pairChar high low = c) : Escaped c (unitEscape high ++ unitEscape low)

theorem escaped_unit {c : Char} (h : c.toNat < 0x10000) : Escaped c (unitEscape c.toNat) := by
  have hv : c.toNat < 0xD800 ∨ 0xDFFF < c.toNat ∧ c.toNat < 0x110000 := c.valid
  have hhigh : Text.isHighSurrogate c.toNat = false := by
    simp only [Text.isHighSurrogate, Bool.and_eq_false_iff, decide_eq_false_iff_not]
    omega
  have hlow : Text.isLowSurrogate c.toNat = false := by
    simp only [Text.isLowSurrogate, Bool.and_eq_false_iff, decide_eq_false_iff_not]
    omega
  refine .unit h hhigh ?_
  rw [Text.unitChar, hhigh, hlow]
  exact Char.ofNat_toNat c

theorem escaped_pair {c : Char} (h : ¬ c.toNat < 0x10000) :
    Escaped c (unitEscape (0xD800 + (c.toNat - 0x10000) / 0x400)
      ++ unitEscape (0xDC00 + (c.toNat - 0x10000) % 0x400)) := by
  have hv : c.toNat < 0xD800 ∨ 0xDFFF < c.toNat ∧ c.toNat < 0x110000 := c.valid
  refine .pair ?_ ?_ ?_
  · simp only [Text.isHighSurrogate, Bool.and_eq_true, decide_eq_true_eq]
    omega
  · simp only [Text.isLowSurrogate, Bool.and_eq_true, decide_eq_true_eq]
    omega
  · rw [Text.pairChar, show 0x10000 + (0xD800 + (c.toNat - 0x10000) / 0x400 - 0xD800) * 0x400
      + (0xDC00 + (c.toNat - 0x10000) % 0x400 - 0xDC00) = c.toNat by omega]
    exact Char.ofNat_toNat c

theorem escaped_escapeChar (c : Char) : Escaped c (escapeChar c) := by
  simp only [escapeChar, beq_iff_eq, Bool.and_eq_true, decide_eq_true_eq]
  repeat' split
  all_goals try (subst c; exact .letter (by decide) rfl (by decide) (by decide))
  · rename_i hquote hslash _ _ _ _ _ hink
    exact .plain hquote hslash hink.1 hink.2
  · exact escaped_unit ‹_›
  · exact escaped_pair ‹_›

theorem stringOnto_escapeChar (opened found : List Char) (c : Char) {rest : List Char}
    (hrest : rest ≠ []) :
    stringOnto opened found (escapeChar c ++ rest) = stringOnto opened (c :: found) rest := by
  have hform := escaped_escapeChar c
  generalize escapeChar c = written at hform
  cases hform with
  | letter hu h => exact stringOnto_letter opened found rest hu h
  | plain hquote hslash hink => exact stringOnto_plain opened found rest hquote hslash hink
  | unit h hhigh hc =>
      have hnumber := numberEscape_unit h hhigh hrest
      rw [hc] at hnumber
      exact stringOnto_number opened found hnumber
  | pair hhigh hlow hc =>
      have hnumber := numberEscape_pair hhigh hlow hrest
      rw [hc] at hnumber
      rw [List.append_assoc]
      exact stringOnto_number opened found hnumber

theorem stringBody_quote (s : String) (rest : List Char) :
    stringBody (s.toList.flatMap escapeChar ++ '"' :: rest) = .ok (s, rest) := by
  have hall : ∀ opened found cs, stringOnto opened found (cs.flatMap escapeChar ++ '"' :: rest)
      = .ok (String.ofList (found.reverse ++ cs), rest) := by
    intro opened found cs
    induction cs generalizing found with
    | nil =>
        rw [List.flatMap_nil, List.nil_append, List.append_nil, stringOnto.eq_def]
        simp
    | cons c cs ih =>
        rw [List.flatMap_cons, List.append_assoc, stringOnto_escapeChar _ _ _ (by simp), ih]
        simp
  rw [stringBody, hall]
  simp

/-- What comes behind a value ends it: nothing, a comma or a line break. -/
def Stops (rest : List Char) : Prop := ∀ c ∈ rest.head?, c = ',' ∨ c = '\n'

theorem isDigit_of_mem_toDigits {n : Nat} {c : Char} (h : c ∈ Nat.toDigits 10 n) : c.isDigit :=
  Nat.isDigit_of_mem_toDigits (by decide) (by decide) h

theorem Stops.not_isDigit {rest : List Char} (h : Stops rest) :
    ∀ c ∈ rest.head?, ¬ c.isDigit = true := by
  intro c hc
  rcases h c hc with rfl | rfl <;> decide

theorem takeWhile_toDigits (n : Nat) {rest : List Char} (h : Stops rest) :
    (Nat.toDigits 10 n ++ rest).takeWhile Char.isDigit = Nat.toDigits 10 n := by
  rw [List.takeWhile_append_of_pos fun c hc => isDigit_of_mem_toDigits hc]
  cases rest with
  | nil => simp
  | cons c cs =>
      rw [List.takeWhile_cons_of_neg (h.not_isDigit c rfl), List.append_nil]

theorem dropWhile_toDigits (n : Nat) {rest : List Char} (h : Stops rest) :
    (Nat.toDigits 10 n ++ rest).dropWhile Char.isDigit = rest := by
  rw [List.dropWhile_append_of_pos fun c hc => isDigit_of_mem_toDigits hc]
  cases rest with
  | nil => simp
  | cons c cs => rw [List.dropWhile_cons_of_neg (h.not_isDigit c rfl)]

theorem head_toDigits_ne_zero {n : Nat} (h : 0 < n) (cs : List Char) :
    Nat.toDigits 10 n ≠ '0' :: cs := by
  induction n using Nat.strongRecOn generalizing cs with
  | _ n ih =>
      rw [Nat.toDigits_eq_if (by decide)]
      split
      · intro hcs
        rw [List.cons.injEq, Nat.digitChar_eq_zero] at hcs
        omega
      · intro hcs
        obtain ⟨d, ds, hds⟩ :=
          List.exists_cons_of_ne_nil (Nat.toDigits_ne_nil (n := n / 10) (b := 10))
        rw [hds, List.cons_append, List.cons.injEq] at hcs
        exact ih (n / 10) (by omega) (by omega) ds (by rw [hds, hcs.1])

theorem wholePart?_toDigits (n : Nat) {rest : List Char} (h : Stops rest) :
    wholePart? (Nat.toDigits 10 n ++ rest) = some (Nat.toDigits 10 n, rest) := by
  rcases Nat.eq_zero_or_pos n with rfl | hn
  · rfl
  · obtain ⟨d, ds, hds⟩ := List.exists_cons_of_ne_nil (Nat.toDigits_ne_nil (n := n) (b := 10))
    rw [wholePart?.eq_def]
    split
    · rename_i cs hcs
      rw [hds, List.cons_append, List.cons.injEq] at hcs
      exact absurd (by rw [hds, hcs.1]) (head_toDigits_ne_zero hn ds)
    · rw [takeWhile_toDigits n h, dropWhile_toDigits n h]
      simp

theorem digitsValue_toDigits (n : Nat) : Decimal.digitsValue (Nat.toDigits 10 n) = n := by
  have hplain : (Nat.toDigits 10 n).filter (· != '_') = Nat.toDigits 10 n := by
    rw [List.filter_eq_self]
    intro c hc
    rw [bne_iff_ne]
    rintro rfl
    exact Nat.underscore_not_in_toDigits hc
  have hfold : Decimal.digitsValue (Nat.toDigits 10 n)
      = Nat.ofDigitChars 10 (Nat.toDigits 10 n) 0 := by
    rw [Decimal.digitsValue, hplain, Nat.ofDigitChars_eq_foldl]
    congr 1
    funext m c
    rw [Nat.mul_comm]
    rfl
  rw [hfold, Nat.ofDigitChars_ten_toDigits]

theorem wholeNumber_toDigits (negative : Bool) {n : Nat}
    (h : (Nat.toDigits 10 n).length ≤ Decimal.digitLimit) :
    wholeNumber negative (Nat.toDigits 10 n) = .ok (.int (if negative then -n else n)) := by
  have hcount : (Nat.toDigits 10 n).countP (· != '_') ≤ Decimal.digitLimit :=
    Nat.le_trans List.countP_le_length h
  rw [wholeNumber, Decimal.wholeValue]
  dsimp only
  rw [if_neg (Nat.not_lt.mpr hcount), digitsValue_toDigits]

theorem number_toDigits {n : Nat} {rest : List Char}
    (h : (Nat.toDigits 10 n).length ≤ Decimal.digitLimit) (hrest : Stops rest) :
    number (Nat.toDigits 10 n ++ rest) = .ok (.int n, rest) := by
  rw [number]
  · dsimp only
    rw [wholePart?_toDigits n hrest]
    cases rest with
    | nil => simp [exponentPart, wholeNumber_toDigits false h, Except.map]
    | cons c cs =>
        rcases hrest c rfl with rfl | rfl <;>
          simp [exponentPart, wholeNumber_toDigits false h, Except.map]
  · intro tail htail
    obtain ⟨d, ds, hds⟩ := List.exists_cons_of_ne_nil (Nat.toDigits_ne_nil (n := n) (b := 10))
    have hd : d.isDigit := isDigit_of_mem_toDigits (n := n) (by rw [hds]; exact List.mem_cons_self)
    rw [hds, List.cons_append, List.cons.injEq] at htail
    rw [htail.1] at hd
    exact absurd hd (by decide)

theorem number_neg_toDigits {n : Nat} {rest : List Char}
    (h : (Nat.toDigits 10 n).length ≤ Decimal.digitLimit) (hrest : Stops rest) :
    number ('-' :: (Nat.toDigits 10 n ++ rest)) = .ok (.int (-n), rest) := by
  rw [number]
  dsimp only
  rw [wholePart?_toDigits n hrest]
  cases rest with
  | nil => simp [exponentPart, wholeNumber_toDigits true h, Except.map]
  | cons c cs =>
      rcases hrest c rfl with rfl | rfl <;>
        simp [exponentPart, wholeNumber_toDigits true h, Except.map]

theorem find?_words_of_isDigit {d : Char} (hd : d.isDigit) (ds : List Char) :
    words.find? (fun w => w.1.isPrefixOf (d :: ds)) = none ∧
      words.find? (fun w => w.1.isPrefixOf ('-' :: d :: ds)) = none := by
  have hne : ∀ c : Char, c.isDigit = false → c ≠ d := by
    rintro c hc rfl
    rw [hc] at hd
    cases hd
  simp [words, hne 'n' rfl, hne 't' rfl, hne 'f' rfl, hne 'N' rfl, hne 'I' rfl, hne '-' rfl]

theorem exists_toDigits (n : Nat) : ∃ d ds, Nat.toDigits 10 n = d :: ds ∧ d.isDigit := by
  obtain ⟨d, ds, hds⟩ := List.exists_cons_of_ne_nil (Nat.toDigits_ne_nil (n := n) (b := 10))
  exact ⟨d, ds, hds, isDigit_of_mem_toDigits (n := n) (by rw [hds]; exact List.mem_cons_self)⟩

theorem toList_toString_int (n : Int) :
    (toString n).toList
      = if 0 ≤ n then Nat.toDigits 10 n.natAbs else '-' :: Nat.toDigits 10 n.natAbs := by
  rw [Int.toString_eq_repr, Int.repr_eq_if]
  split
  · rw [Nat.toList_repr, show n.toNat = n.natAbs by omega]
  · rw [String.toList_append, Nat.toList_repr, show (-n).toNat = n.natAbs by omega]
    rfl

theorem scalar_toString {n : Int} {rest : List Char}
    (h : (Nat.toDigits 10 n.natAbs).length ≤ Decimal.digitLimit) (hrest : Stops rest) :
    scalar ((toString n).toList ++ rest) = .ok (.int n, rest) := by
  obtain ⟨d, ds, hds, hd⟩ := exists_toDigits n.natAbs
  obtain ⟨hplain, hsigned⟩ := find?_words_of_isDigit hd (ds ++ rest)
  have hnumber := number_toDigits h hrest
  have hnegative := number_neg_toDigits h hrest
  rw [hds, List.cons_append] at hnumber hnegative
  rw [toList_toString_int, hds]
  split
  · rename_i hn
    rw [List.cons_append, scalar, hplain]
    dsimp only
    rw [hnumber, Int.natAbs_of_nonneg hn]
  · rename_i hn
    rw [List.cons_append, List.cons_append, scalar, hsigned]
    dsimp only
    rw [hnegative, show -(n.natAbs : Int) = n by omega]

theorem scalar_null (rest : List Char) : scalar ("null".toList ++ rest) = .ok (.null, rest) := by
  simp [scalar, words, List.isPrefixOf]

theorem scalar_true (rest : List Char) :
    scalar ("true".toList ++ rest) = .ok (.bool true, rest) := by
  simp [scalar, words, List.isPrefixOf]

theorem scalar_false (rest : List Char) :
    scalar ("false".toList ++ rest) = .ok (.bool false, rest) := by
  simp [scalar, words, List.isPrefixOf]

def Inked (c : Char) : Prop := c = '\n' ∨ 32 ≤ c.toNat ∧ c.toNat < 127

theorem inked_of_all {cs : List Char} (h : cs.all fun c => 32 ≤ c.toNat && c.toNat < 127) {c : Char}
    (hc : c ∈ cs) : Inked c := by
  have hink := List.all_eq_true.mp h c hc
  rw [Bool.and_eq_true, decide_eq_true_eq, decide_eq_true_eq] at hink
  exact .inr hink

theorem inked_digitChar {d : Nat} (h : d < 16) : Inked (Nat.digitChar d) := by
  have hall : ∀ d < 16, 32 ≤ (Nat.digitChar d).toNat ∧ (Nat.digitChar d).toNat < 127 := by decide
  exact .inr (hall d h)

theorem inked_of_mem_unitEscape {n : Nat} {c : Char} (h : c ∈ unitEscape n) : Inked c := by
  have hdigit (m : Nat) : Inked (Nat.digitChar (m % 16)) :=
    inked_digitChar (Nat.mod_lt m (by decide))
  simp only [unitEscape, Text.hexDigits, List.nil_append, List.cons_append, List.mem_cons,
    List.not_mem_nil, or_false] at h
  rcases h with rfl | rfl | rfl | rfl | rfl | rfl
  · exact .inr (by decide)
  · exact .inr (by decide)
  all_goals exact hdigit _

theorem inked_of_mem_escapeChar {c d : Char} (h : d ∈ escapeChar c) : Inked d := by
  have hform := escaped_escapeChar c
  generalize escapeChar c = written at hform h
  cases hform with
  | letter hu he hink hascii =>
      simp only [List.mem_cons, List.not_mem_nil, or_false] at h
      rcases h with rfl | rfl
      · exact .inr (by decide)
      · exact .inr ⟨hink, hascii⟩
  | plain hquote hslash hink hascii =>
      rw [List.mem_singleton] at h
      exact .inr (h ▸ ⟨hink, hascii⟩)
  | unit => exact inked_of_mem_unitEscape h
  | pair => exact (List.mem_append.mp h).elim inked_of_mem_unitEscape inked_of_mem_unitEscape

theorem inked_of_mem_quote {s : String} {c : Char} (h : c ∈ quote s) : Inked c := by
  simp only [quote, List.cons_append, List.mem_cons, List.mem_append, List.mem_flatMap,
    List.not_mem_nil, or_false] at h
  rcases h with rfl | ⟨d, -, h⟩ | rfl
  · exact .inr (by decide)
  · exact inked_of_mem_escapeChar h
  · exact .inr (by decide)

theorem inked_of_isDigit {c : Char} (h : c.isDigit) : Inked c := by
  simp only [Char.isDigit, Bool.and_eq_true, decide_eq_true_eq, ge_iff_le, UInt32.le_iff_toNat_le]
    at h
  exact .inr ⟨Nat.le_trans (by decide) h.1, Nat.lt_of_le_of_lt h.2 (by decide)⟩

theorem inked_of_mem_toString_int {n : Int} {c : Char} (h : c ∈ (toString n).toList) :
    Inked c := by
  rw [toList_toString_int] at h
  split at h
  · exact inked_of_isDigit (isDigit_of_mem_toDigits h)
  · rcases List.mem_cons.mp h with rfl | h
    · exact .inr (by decide)
    · exact inked_of_isDigit (isDigit_of_mem_toDigits h)

end Dissect.Json
