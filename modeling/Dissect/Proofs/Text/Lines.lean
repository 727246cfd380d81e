import Dissect.Proofs.Text.Utf8
import Dissect.Text.Lines

namespace Dissect.Text

theorem cutOnto_eq [BEq α] (x : α) (parts : Array (List α)) (current xs : List α) :
    (cutOnto (· == x) parts current xs).toList
      = parts.toList ++ (xs.splitOn x).modifyHead (current.reverse ++ ·) := by
  induction xs generalizing parts current with
  | nil => simp [cutOnto]
  | cons y ys ih =>
      rw [cutOnto, List.splitOn_cons_eq_if_modifyHead]
      split
      · rw [ih]
        cases hs : ys.splitOn x with
        | nil => exact absurd hs (List.splitOn_ne_nil x ys)
        | cons head tail => simp
      · rw [ih]
        cases hs : ys.splitOn x with
        | nil => exact absurd hs (List.splitOn_ne_nil x ys)
        | cons head tail => simp

theorem cut_eq_splitOn [BEq α] (x : α) (xs : List α) : cut (· == x) xs = xs.splitOn x := by
  rw [cut, cutOnto_eq]
  cases hs : xs.splitOn x with
  | nil => exact absurd hs (List.splitOn_ne_nil x xs)
  | cons head tail => simp

theorem map_toList_splitLines (text : String) :
    (splitLines text).map String.toList = text.toList.splitOn '\n' := by
  simp [splitLines, cut_eq_splitOn, Function.comp_def]

theorem intercalate_splitLines (text : String) : "\n".intercalate (splitLines text) = text := by
  rw [← String.toList_inj, String.toList_intercalate, map_toList_splitLines]
  exact List.intercalate_splitOn '\n'

theorem splitLines_intercalate {lines : List String} (hne : lines ≠ [])
    (h : ∀ line ∈ lines, '\n' ∉ line.toList) :
    splitLines ("\n".intercalate lines) = lines := by
  have hcut : (splitLines ("\n".intercalate lines)).map String.toList
      = lines.map String.toList := by
    rw [map_toList_splitLines, String.toList_intercalate]
    exact List.splitOn_intercalate '\n' (by simpa using h) (by simpa using hne)
  exact (List.map_inj_right fun _ _ => String.toList_inj.mp).mp hcut

theorem forall_mem_intercalate {P : Char → Prop} {separator : String} {parts : List String}
    (hseparator : ∀ c ∈ separator.toList, P c)
    (hparts : ∀ part ∈ parts, ∀ c ∈ part.toList, P c) :
    ∀ c ∈ (separator.intercalate parts).toList, P c := by
  induction parts with
  | nil =>
      rw [String.intercalate_nil]
      exact fun c hc => nomatch hc
  | cons part parts ih =>
      obtain ⟨hpart, hparts⟩ := List.forall_mem_cons.mp hparts
      cases parts with
      | nil => rwa [String.intercalate_singleton]
      | cons other parts =>
          rw [String.intercalate_cons_cons, String.toList_append, String.toList_append]
          simp only [List.forall_mem_append]
          exact ⟨⟨hpart, hseparator⟩, ih hparts⟩

theorem length_splitOn [BEq α] [LawfulBEq α] (x : α) (xs : List α) :
    (xs.splitOn x).length = xs.count x + 1 := by
  induction xs with
  | nil => simp
  | cons y ys ih =>
      rw [List.splitOn_cons_eq_if_modifyHead, List.count_cons]
      split <;> simp [ih]

theorem not_mem_of_mem_splitOn [BEq α] [LawfulBEq α] {x : α} {xs part : List α}
    (h : part ∈ xs.splitOn x) : x ∉ part := by
  induction xs generalizing part with
  | nil => simp_all
  | cons y ys ih =>
      rw [List.splitOn_cons_eq_if_modifyHead] at h
      split at h
      · rcases List.mem_cons.mp h with rfl | h
        · exact List.not_mem_nil
        · exact ih h
      · rename_i hy
        cases hs : ys.splitOn x with
        | nil => exact absurd hs (List.splitOn_ne_nil x ys)
        | cons head tail =>
            rw [hs, List.modifyHead_cons] at h
            rcases List.mem_cons.mp h with rfl | h
            · rw [List.mem_cons, not_or]
              exact ⟨fun he => hy (by simp [he]), ih (by simp [hs])⟩
            · exact ih (by simp [hs, h])

/-- What stands behind the last separator ends the last part. -/
theorem exists_getLast?_splitOn [BEq α] [LawfulBEq α] {x : α} {ys : List α} (h : x ∉ ys)
    (xs : List α) : ∃ front, ((xs ++ ys).splitOn x).getLast? = some (front ++ ys) := by
  induction xs with
  | nil => exact ⟨[], by simp [List.splitOn_eq_singleton h]⟩
  | cons z zs ih =>
      obtain ⟨front, hf⟩ := ih
      rw [List.cons_append, List.splitOn_cons_eq_if_modifyHead]
      cases hs : (zs ++ ys).splitOn x with
      | nil => exact absurd hs (List.splitOn_ne_nil x _)
      | cons head tail =>
          rw [hs] at hf
          split
          · exact ⟨front, by rw [List.getLast?_cons_cons, hf]⟩
          · cases tail with
            | nil =>
                have hhead : head = front ++ ys := by simpa using hf
                exact ⟨z :: front, by simp [hhead]⟩
            | cons t ts => exact ⟨front, by simpa using hf⟩

theorem length_splitLines (text : String) :
    (splitLines text).length = text.toList.count '\n' + 1 := by
  rw [← length_splitOn, ← map_toList_splitLines, List.length_map]

theorem newline_not_mem_of_mem_splitLines {text line : String} (h : line ∈ splitLines text) :
    '\n' ∉ line.toList := by
  have hmem : line.toList ∈ (splitLines text).map String.toList := List.mem_map_of_mem h
  rw [map_toList_splitLines] at hmem
  exact not_mem_of_mem_splitOn hmem

theorem lineTotal_eq (text : String) :
    lineTotal text =
      if text.isEmpty then 0
      else if 1 < text.toList.count '\n' + 1
          && (text.toList.splitOn '\n').getLast? == some [] then text.toList.count '\n'
      else text.toList.count '\n' + 1 := by
  rw [lineTotal, cut_eq_splitOn]
  dsimp only
  rw [length_splitOn, Nat.add_sub_cancel]

theorem lineTotal_le_length (text : String) : lineTotal text ≤ (splitLines text).length := by
  rw [lineTotal_eq, length_splitLines]
  split
  · omega
  · split <;> omega

theorem length_le_lineTotal (text : String) : (splitLines text).length ≤ lineTotal text + 1 := by
  rw [lineTotal_eq, length_splitLines]
  split
  · rename_i h
    rw [String.isEmpty_iff.mp h]
    simp
  · split <;> omega

theorem line_le_lineTotal {text : String} {before after : List Char} {c : Char}
    (h : text.toList = before ++ c :: after) : before.count '\n' + 1 ≤ lineTotal text := by
  have hne : ¬ text.isEmpty = true := by
    rw [String.isEmpty_iff, ← String.toList_inj, h]
    simp
  rw [lineTotal_eq, if_neg hne, h, List.count_append]
  split
  · rename_i hlast
    by_cases hc : '\n' ∈ c :: after
    · have := List.count_pos_iff.mpr hc
      omega
    · obtain ⟨front, hf⟩ := exists_getLast?_splitOn hc before
      simp [hf] at hlast
  · omega

theorem count_encodeChar (c : Char) :
    (String.utf8EncodeChar c).countP (· == 10) = if c = '\n' then 1 else 0 := by
  have hv : c.val.toNat < 0xD800 ∨ 0xDFFF < c.val.toNat ∧ c.val.toNat < 0x110000 := c.valid
  have hc : c = '\n' ↔ c.val.toNat = 10 := by
    rw [Char.ext_iff, ← UInt32.toNat_inj]
    rfl
  simp only [String.utf8EncodeChar, hc]
  generalize c.val.toNat = v at hv
  have hoctet : ∀ n : Nat, n < 256 → ((UInt8.ofNat n == 10) = true ↔ n = 10) := by
    intro n hn
    rw [beq_iff_eq, ← UInt8.toNat_inj, Utf8.toNat_ofNat_octet hn]
    rfl
  repeat' split
  all_goals
    simp (disch := omega) only [List.countP_cons, List.countP_nil, hoctet]
    grind

theorem countP_encode (cs : List Char) :
    (cs.flatMap String.utf8EncodeChar).countP (· == 10) = cs.count '\n' := by
  induction cs with
  | nil => rfl
  | cons c cs ih =>
      rw [List.flatMap_cons, List.countP_append, ih, count_encodeChar, List.count_cons,
        Nat.add_comm]
      simp only [beq_iff_eq]

theorem read_encode (text : String) : read (Utf8.encode text) = .ok (unifyBreaks text) := by
  rw [read, Utf8.decode_eq_ok_iff.mpr rfl]
  rfl

theorem unifyBreaksOnto_of_not_mem {cs : List Char} (h : '\r' ∉ cs) (found : Array Char) :
    (unifyBreaksOnto found cs).toList = found.toList ++ cs := by
  induction cs generalizing found with
  | nil => simp [unifyBreaksOnto]
  | cons c cs ih =>
      rw [List.mem_cons, not_or] at h
      have hplain : unifyBreaksOnto found (c :: cs) = unifyBreaksOnto (found.push c) cs := by
        rw [unifyBreaksOnto] <;> grind
      rw [hplain, ih h.2, Array.toList_push, List.append_assoc, List.singleton_append]

theorem unifyBreaks_of_not_mem {text : String} (h : '\r' ∉ text.toList) :
    unifyBreaks text = text := by
  rw [unifyBreaks, unifyBreaksOnto_of_not_mem h, List.nil_append, String.ofList_toList]

end Dissect.Text
