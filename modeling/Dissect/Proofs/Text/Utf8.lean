import Dissect.Text.Utf8

namespace Dissect.Text.Utf8

theorem toNat_ofNat {n : Nat} (h : n.isValidChar) : (Char.ofNat n).val.toNat = n := by
  rw [Char.ofNat, dif_pos h]
  rfl

theorem encodeChar_one {n : Nat} (h : n < 0x80) :
    String.utf8EncodeChar (Char.ofNat n) = [UInt8.ofNat n] := by
  have hn : (Char.ofNat n).val.toNat = n := toNat_ofNat (by simp only [Nat.isValidChar]; omega)
  simp only [String.utf8EncodeChar, hn]
  rw [if_pos (by omega)]

theorem encodeChar_two {a b : UInt8} (ha : 0xC2 ≤ a.toNat ∧ a.toNat ≤ 0xDF)
    (hb : 0x80 ≤ b.toNat ∧ b.toNat ≤ 0xBF) :
    String.utf8EncodeChar (Char.ofNat (a.toNat % 32 * 64 + (b.toNat - 0x80))) = [a, b] := by
  generalize hn : a.toNat % 32 * 64 + (b.toNat - 0x80) = n
  have hv : (Char.ofNat n).val.toNat = n := toNat_ofNat (by simp only [Nat.isValidChar]; omega)
  simp only [String.utf8EncodeChar, hv]
  rw [if_neg (by omega), if_pos (by omega)]
  simp only [List.cons.injEq, ← UInt8.toNat_inj, UInt8.toNat_ofNat', and_true]
  omega

theorem encodeChar_three {a b c : UInt8} (ha : 0xE0 ≤ a.toNat ∧ a.toNat ≤ 0xEF)
    (hb : 0x80 ≤ b.toNat ∧ b.toNat ≤ 0xBF) (hc : 0x80 ≤ c.toNat ∧ c.toNat ≤ 0xBF)
    (hlow : a.toNat = 0xE0 → 0xA0 ≤ b.toNat) (hhigh : a.toNat = 0xED → b.toNat ≤ 0x9F) :
    String.utf8EncodeChar (Char.ofNat
      ((a.toNat % 16 * 64 + (b.toNat - 0x80)) * 64 + (c.toNat - 0x80))) = [a, b, c] := by
  generalize hn : (a.toNat % 16 * 64 + (b.toNat - 0x80)) * 64 + (c.toNat - 0x80) = n
  have hv : (Char.ofNat n).val.toNat = n := toNat_ofNat (by simp only [Nat.isValidChar]; omega)
  simp only [String.utf8EncodeChar, hv]
  rw [if_neg (by omega), if_neg (by omega), if_pos (by omega)]
  simp only [List.cons.injEq, ← UInt8.toNat_inj, UInt8.toNat_ofNat', and_true]
  omega

theorem encodeChar_four {a b c d : UInt8} (ha : 0xF0 ≤ a.toNat ∧ a.toNat ≤ 0xF4)
    (hb : 0x80 ≤ b.toNat ∧ b.toNat ≤ 0xBF) (hc : 0x80 ≤ c.toNat ∧ c.toNat ≤ 0xBF)
    (hd : 0x80 ≤ d.toNat ∧ d.toNat ≤ 0xBF)
    (hlow : a.toNat = 0xF0 → 0x90 ≤ b.toNat) (hhigh : a.toNat = 0xF4 → b.toNat ≤ 0x8F) :
    String.utf8EncodeChar (Char.ofNat
      (((a.toNat % 8 * 64 + (b.toNat - 0x80)) * 64 + (c.toNat - 0x80)) * 64
        + (d.toNat - 0x80))) = [a, b, c, d] := by
  generalize hn : ((a.toNat % 8 * 64 + (b.toNat - 0x80)) * 64 + (c.toNat - 0x80)) * 64
    + (d.toNat - 0x80) = n
  have hv : (Char.ofNat n).val.toNat = n := toNat_ofNat (by simp only [Nat.isValidChar]; omega)
  simp only [String.utf8EncodeChar, hv]
  rw [if_neg (by omega), if_neg (by omega), if_neg (by omega)]
  simp only [List.cons.injEq, ← UInt8.toNat_inj, UInt8.toNat_ofNat', and_true]
  omega

theorem exists_of_continuation {count width bits w : Nat} {lo hi : UInt8} {bs : Bytes} {c : Char}
    (h : continuation (count + 1) lo hi width bits bs = .char c w) :
    ∃ b rest, bs = b :: rest ∧ lo.toNat ≤ b.toNat ∧ b.toNat ≤ hi.toNat ∧
      continuation count 0x80 0xBF (width + 1) (bits * 64 + (b.toNat - 0x80)) rest
        = .char c w := by
  cases bs with
  | nil => simp [continuation] at h
  | cons b rest =>
      rw [continuation] at h
      split at h
      · rename_i hb
        rw [Bool.and_eq_true, decide_eq_true_eq, decide_eq_true_eq] at hb
        exact ⟨b, rest, rfl, UInt8.le_iff_toNat_le.mp hb.1, UInt8.le_iff_toNat_le.mp hb.2, h⟩
      · cases h

theorem leadRange_cases {b lo hi : UInt8} {count : Nat} (h : leadRange b = some (count, lo, hi)) :
    (count = 1 ∧ 0x80 ≤ lo.toNat ∧ hi.toNat ≤ 0xBF ∧ 0xC2 ≤ b.toNat ∧ b.toNat ≤ 0xDF) ∨
      (count = 2 ∧ 0xE0 ≤ b.toNat ∧ b.toNat ≤ 0xEF ∧ 0x80 ≤ lo.toNat ∧ hi.toNat ≤ 0xBF ∧
        (b.toNat = 0xE0 → 0xA0 ≤ lo.toNat) ∧ (b.toNat = 0xED → hi.toNat ≤ 0x9F)) ∨
      (count = 3 ∧ 0xF0 ≤ b.toNat ∧ b.toNat ≤ 0xF4 ∧ 0x80 ≤ lo.toNat ∧ hi.toNat ≤ 0xBF ∧
        (b.toNat = 0xF0 → 0x90 ≤ lo.toNat) ∧ (b.toNat = 0xF4 → hi.toNat ≤ 0x8F)) := by
  simp only [leadRange, Bool.and_eq_true, decide_eq_true_eq, beq_iff_eq,
    UInt8.le_iff_toNat_le, ← UInt8.toNat_inj] at h
  repeat' split at h
  all_goals simp only [Option.some.injEq, Prod.mk.injEq, reduceCtorEq] at h
  all_goals
    obtain ⟨rfl, rfl, rfl⟩ := h
    simp only [UInt8.reduceToNat] at *
    grind

theorem encodeChar_append_of_piece {b : UInt8} {rest : Bytes} {c : Char} {w : Nat}
    (h : piece b rest = .char c w) :
    b :: rest = String.utf8EncodeChar c ++ rest.drop (w - 1) := by
  unfold piece at h
  split at h
  · rename_i hb
    cases h
    rw [encodeChar_one (UInt8.lt_iff_toNat_lt.mp hb), UInt8.ofNat_toNat]
    rfl
  · split at h
    · cases h
    · rename_i count lo hi hlead
      rcases leadRange_cases hlead with ⟨rfl, hlo, hhi, hb⟩ | ⟨rfl, hb, hb', hlo, hhi, hs⟩ |
          ⟨rfl, hb, hb', hlo, hhi, hs⟩
      · obtain ⟨x, r₁, rfl, hx, hx', h⟩ := exists_of_continuation h
        simp only [continuation, Piece.char.injEq] at h
        obtain ⟨rfl, rfl⟩ := h
        rw [leadBits, encodeChar_two hb (by omega)]
        rfl
      · obtain ⟨x, r₁, rfl, hx, hx', h⟩ := exists_of_continuation h
        obtain ⟨y, r₂, rfl, hy, hy', h⟩ := exists_of_continuation h
        simp only [continuation, Piece.char.injEq] at h
        obtain ⟨rfl, rfl⟩ := h
        rw [leadBits, encodeChar_three ⟨hb, hb'⟩ (by omega) ⟨hy, hy'⟩ (by omega) (by omega)]
        rfl
      · obtain ⟨x, r₁, rfl, hx, hx', h⟩ := exists_of_continuation h
        obtain ⟨y, r₂, rfl, hy, hy', h⟩ := exists_of_continuation h
        obtain ⟨z, r₃, rfl, hz, hz', h⟩ := exists_of_continuation h
        simp only [continuation, Piece.char.injEq] at h
        obtain ⟨rfl, rfl⟩ := h
        rw [leadBits, encodeChar_four ⟨hb, hb'⟩ (by omega) ⟨hy, hy'⟩ ⟨hz, hz'⟩ (by omega)
          (by omega)]
        rfl

theorem exists_leadRange {b x : UInt8} {count : Nat}
    (h : (count = 1 ∧ 0xC2 ≤ b.toNat ∧ b.toNat ≤ 0xDF) ∨
      (count = 2 ∧ 0xE0 ≤ b.toNat ∧ b.toNat ≤ 0xEF ∧ (b.toNat = 0xE0 → 0xA0 ≤ x.toNat) ∧
        (b.toNat = 0xED → x.toNat ≤ 0x9F)) ∨
      (count = 3 ∧ 0xF0 ≤ b.toNat ∧ b.toNat ≤ 0xF4 ∧ (b.toNat = 0xF0 → 0x90 ≤ x.toNat) ∧
        (b.toNat = 0xF4 → x.toNat ≤ 0x8F)))
    (hx : 0x80 ≤ x.toNat ∧ x.toNat ≤ 0xBF) :
    ∃ lo hi, leadRange b = some (count, lo, hi) ∧ lo ≤ x ∧ x ≤ hi := by
  simp only [leadRange, Bool.and_eq_true, decide_eq_true_eq, beq_iff_eq,
    UInt8.le_iff_toNat_le, ← UInt8.toNat_inj]
  simp only [UInt8.reduceToNat] at *
  rcases h with ⟨rfl, hb⟩ | ⟨rfl, hb⟩ | ⟨rfl, hb⟩
  · rw [if_pos hb]
    exact ⟨_, _, rfl, hx⟩
  · rw [if_neg (by omega)]
    split
    · exact ⟨_, _, rfl, by simp only [UInt8.reduceToNat]; omega⟩
    · split
      · exact ⟨_, _, rfl, by simp only [UInt8.reduceToNat]; omega⟩
      · rw [if_pos (by omega)]
        exact ⟨_, _, rfl, hx⟩
  · rw [if_neg (by omega), if_neg (by omega), if_neg (by omega), if_neg (by omega)]
    split
    · exact ⟨_, _, rfl, by simp only [UInt8.reduceToNat]; omega⟩
    · split
      · exact ⟨_, _, rfl, by simp only [UInt8.reduceToNat]; omega⟩
      · rw [if_pos (by omega)]
        exact ⟨_, _, rfl, hx⟩

theorem continuation_cons {lo hi b : UInt8} (h : lo ≤ b ∧ b ≤ hi) (count width bits : Nat)
    (rest : Bytes) :
    continuation (count + 1) lo hi width bits (b :: rest)
      = continuation count 0x80 0xBF (width + 1) (bits * 64 + (b.toNat - 0x80)) rest := by
  rw [continuation, if_pos (by simpa using h)]

theorem not_lt_of_le_toNat {b : UInt8} (h : 0x80 ≤ b.toNat) : ¬ b < 0x80 := by
  rw [UInt8.lt_iff_toNat_lt]
  exact Nat.not_lt.mpr h

theorem mem_tail {b : UInt8} (h : 0x80 ≤ b.toNat ∧ b.toNat ≤ 0xBF) :
    (0x80 : UInt8) ≤ b ∧ b ≤ 0xBF := by
  rwa [UInt8.le_iff_toNat_le, UInt8.le_iff_toNat_le]

theorem piece_of_leadRange {b x lo hi : UInt8} {count : Nat}
    (h : leadRange b = some (count + 1, lo, hi)) (hb : ¬ b < 0x80) (hx : lo ≤ x ∧ x ≤ hi)
    (rest : Bytes) :
    piece b (x :: rest)
      = continuation count 0x80 0xBF 2 (leadBits b (count + 1) * 64 + (x.toNat - 0x80)) rest := by
  rw [piece, if_neg hb, h]
  exact continuation_cons hx count 1 _ rest

theorem piece_two {a b : UInt8} (ha : 0xC2 ≤ a.toNat ∧ a.toNat ≤ 0xDF)
    (hb : 0x80 ≤ b.toNat ∧ b.toNat ≤ 0xBF) {n : Nat}
    (hn : a.toNat % 32 * 64 + (b.toNat - 0x80) = n) (rest : Bytes) :
    piece a (b :: rest) = .char (Char.ofNat n) 2 := by
  obtain ⟨lo, hi, hlead, hr⟩ := exists_leadRange (.inl ⟨rfl, ha⟩) hb
  rw [piece_of_leadRange hlead (not_lt_of_le_toNat (by omega)) hr, continuation, ← hn]
  rfl

theorem piece_three {a b c : UInt8} (ha : 0xE0 ≤ a.toNat ∧ a.toNat ≤ 0xEF)
    (hb : 0x80 ≤ b.toNat ∧ b.toNat ≤ 0xBF) (hc : 0x80 ≤ c.toNat ∧ c.toNat ≤ 0xBF)
    (hlow : a.toNat = 0xE0 → 0xA0 ≤ b.toNat) (hhigh : a.toNat = 0xED → b.toNat ≤ 0x9F)
    {n : Nat} (hn : (a.toNat % 16 * 64 + (b.toNat - 0x80)) * 64 + (c.toNat - 0x80) = n)
    (rest : Bytes) :
    piece a (b :: c :: rest) = .char (Char.ofNat n) 3 := by
  obtain ⟨lo, hi, hlead, hr⟩ :=
    exists_leadRange (.inr (.inl ⟨rfl, ha.1, ha.2, hlow, hhigh⟩)) hb
  rw [piece_of_leadRange hlead (not_lt_of_le_toNat (by omega)) hr,
    continuation_cons (mem_tail hc), continuation, ← hn]
  rfl

theorem piece_four {a b c d : UInt8} (ha : 0xF0 ≤ a.toNat ∧ a.toNat ≤ 0xF4)
    (hb : 0x80 ≤ b.toNat ∧ b.toNat ≤ 0xBF) (hc : 0x80 ≤ c.toNat ∧ c.toNat ≤ 0xBF)
    (hd : 0x80 ≤ d.toNat ∧ d.toNat ≤ 0xBF)
    (hlow : a.toNat = 0xF0 → 0x90 ≤ b.toNat) (hhigh : a.toNat = 0xF4 → b.toNat ≤ 0x8F)
    {n : Nat} (hn : ((a.toNat % 8 * 64 + (b.toNat - 0x80)) * 64 + (c.toNat - 0x80)) * 64
      + (d.toNat - 0x80) = n) (rest : Bytes) :
    piece a (b :: c :: d :: rest) = .char (Char.ofNat n) 4 := by
  obtain ⟨lo, hi, hlead, hr⟩ :=
    exists_leadRange (.inr (.inr ⟨rfl, ha.1, ha.2, hlow, hhigh⟩)) hb
  rw [piece_of_leadRange hlead (not_lt_of_le_toNat (by omega)) hr,
    continuation_cons (mem_tail hc), continuation_cons (mem_tail hd), continuation, ← hn]
  rfl

theorem toNat_ofNat_octet {n : Nat} (h : n < 256) : (UInt8.ofNat n).toNat = n := by
  simp [Nat.mod_eq_of_lt h]

theorem piece_encodeChar (c : Char) {b : UInt8} {more rest : Bytes}
    (h : b :: more = String.utf8EncodeChar c ++ rest) :
    piece b more = .char c (String.utf8EncodeChar c).length := by
  have hc : Char.ofNat c.val.toNat = c := Char.ofNat_toNat c
  have hv : c.val.toNat < 0xD800 ∨ 0xDFFF < c.val.toNat ∧ c.val.toNat < 0x110000 := c.valid
  simp only [String.utf8EncodeChar] at h ⊢
  generalize c.val.toNat = v at hc hv h ⊢
  subst hc
  split at h
  · rename_i h₁
    rw [if_pos h₁]
    obtain ⟨rfl, rfl⟩ := List.cons.inj h
    have hb := toNat_ofNat_octet (show v < 256 by omega)
    rw [piece, if_pos (UInt8.lt_iff_toNat_lt.mpr (by rw [hb]; exact Nat.lt_succ_of_le h₁)), hb]
    rfl
  · rename_i h₁
    rw [if_neg h₁]
    split at h
    · rename_i h₂
      rw [if_pos h₂]
      have hb := toNat_ofNat_octet (show v / 64 % 0x20 + 0xc0 < 256 by omega)
      have hx := toNat_ofNat_octet (show v % 0x40 + 0x80 < 256 by omega)
      simp only [List.cons_append, List.nil_append, List.cons.injEq] at h
      obtain ⟨rfl, rfl⟩ := h
      exact piece_two (by omega) (by omega) (by omega) rest
    · rename_i h₂
      rw [if_neg h₂]
      split at h
      · rename_i h₃
        rw [if_pos h₃]
        have hb := toNat_ofNat_octet (show v / 4096 % 0x10 + 0xe0 < 256 by omega)
        have hx := toNat_ofNat_octet (show v / 64 % 0x40 + 0x80 < 256 by omega)
        have hy := toNat_ofNat_octet (show v % 0x40 + 0x80 < 256 by omega)
        simp only [List.cons_append, List.nil_append, List.cons.injEq] at h
        obtain ⟨rfl, rfl⟩ := h
        exact piece_three (by omega) (by omega) (by omega) (by omega) (by omega) (by omega) rest
      · rename_i h₃
        rw [if_neg h₃]
        have hb := toNat_ofNat_octet (show v / 262144 % 0x08 + 0xf0 < 256 by omega)
        have hx := toNat_ofNat_octet (show v / 4096 % 0x40 + 0x80 < 256 by omega)
        have hy := toNat_ofNat_octet (show v / 64 % 0x40 + 0x80 < 256 by omega)
        have hz := toNat_ofNat_octet (show v % 0x40 + 0x80 < 256 by omega)
        simp only [List.cons_append, List.nil_append, List.cons.injEq] at h
        obtain ⟨rfl, rfl⟩ := h
        exact piece_four (by omega) (by omega) (by omega) (by omega) (by omega) (by omega)
          (by omega) rest

theorem encode_append (a b : String) : encode (a ++ b) = encode a ++ encode b := by
  simp [encode]

theorem piecesOnto_eq_append (found : Array Piece) :
    (bs : Bytes) → piecesOnto found bs = found ++ piecesOnto #[] bs
  | [] => by simp [piecesOnto]
  | b :: rest => by
      have hfound := piecesOnto_eq_append (found.push (piece b rest))
        (rest.drop ((piece b rest).width - 1))
      have hempty := piecesOnto_eq_append (#[].push (piece b rest))
        (rest.drop ((piece b rest).width - 1))
      rw [piecesOnto, piecesOnto, hfound, hempty]
      simp
termination_by bs => bs.length
decreasing_by all_goals simp only [List.length_drop, List.length_cons]; omega

@[simp] theorem pieces_nil : pieces [] = [] := by
  simp [pieces, piecesOnto]

theorem pieces_cons (b : UInt8) (rest : Bytes) :
    pieces (b :: rest) = piece b rest :: pieces (rest.drop ((piece b rest).width - 1)) := by
  rw [pieces, piecesOnto, piecesOnto_eq_append]
  simp [pieces]

theorem exists_of_characters {bs : Bytes} {cs : List Char} (position : Nat) (found : List Char) :
    (rest : Bytes) → characters bs position found (pieces rest) = .ok cs →
      ∃ more, cs = found.reverse ++ more ∧ rest = more.flatMap String.utf8EncodeChar
  | [], h => by
      rw [pieces_nil, characters, Except.ok.injEq] at h
      exact ⟨[], by simp [h], rfl⟩
  | b :: rest, h => by
      rw [pieces_cons] at h
      cases hp : piece b rest with
      | bad width reason => simp [hp, characters] at h
      | char c width =>
          rw [hp, characters, Piece.width] at h
          obtain ⟨more, hcs, hrest⟩ := exists_of_characters _ _ (rest.drop (width - 1)) h
          refine ⟨c :: more, by simp [hcs], ?_⟩
          rw [List.flatMap_cons, ← hrest]
          exact encodeChar_append_of_piece hp
termination_by rest => rest.length
decreasing_by simp only [List.length_drop, List.length_cons]; omega

theorem characters_encode (bs : Bytes) (position : Nat) (found cs : List Char) :
    characters bs position found (pieces (cs.flatMap String.utf8EncodeChar))
      = .ok (found.reverse ++ cs) := by
  induction cs generalizing position found with
  | nil => simp [characters]
  | cons c cs ih =>
      obtain ⟨b, more, hb⟩ := List.exists_cons_of_ne_nil (String.utf8EncodeChar_ne_nil (c := c))
      have hp : piece b (more ++ cs.flatMap String.utf8EncodeChar)
          = .char c (String.utf8EncodeChar c).length :=
        piece_encodeChar c (by rw [hb]; rfl)
      rw [List.flatMap_cons, hb, List.cons_append, pieces_cons, hp, characters, Piece.width, hb,
        List.length_cons, Nat.add_sub_cancel, List.drop_left, ih]
      simp

theorem decode_eq_ok_iff {bs : Bytes} {text : String} :
    decode bs = .ok text ↔ bs = encode text := by
  constructor
  · intro h
    rw [decode] at h
    cases hcs : characters bs 0 [] (pieces bs) with
    | error f => simp [hcs, Except.map] at h
    | ok cs =>
        rw [hcs, Except.map, Except.ok.injEq] at h
        obtain ⟨more, hmore, hbs⟩ := exists_of_characters 0 [] bs hcs
        rw [hbs, encode, ← h, String.toList_ofList, hmore]
        rfl
  · rintro rfl
    rw [decode, encode, characters_encode, Except.map, List.reverse_nil, List.nil_append,
      String.ofList_toList]

end Dissect.Text.Utf8
