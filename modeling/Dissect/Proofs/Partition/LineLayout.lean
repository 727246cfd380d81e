import Dissect.Proofs.Partition.Sweep
import Dissect.Proofs.Text.Lines

namespace Dissect.Partition

open Text

theorem length_encode (text : String) : (Utf8.encode text).length = text.utf8ByteSize := by
  conv_rhs => rw [← String.ofList_toList (s := text)]
  rw [← String.size_toByteArray, String.toByteArray_ofList, List.utf8Encode,
    List.size_toByteArray, Utf8.encode]

theorem encode_intercalate_cons (line : String) {rest : List String} (h : rest ≠ []) :
    Utf8.encode ("\n".intercalate (line :: rest))
      = Utf8.encode line ++ 10 :: Utf8.encode ("\n".intercalate rest) := by
  rw [String.intercalate_cons_of_ne_nil h, Utf8.encode_append, Utf8.encode_append,
    List.append_assoc]
  rfl

@[simp] theorem lineOffset_zero (lines : List String) : lineOffset lines 0 = 0 := rfl

theorem lineOffset_cons_succ (line : String) (rest : List String) (n : Nat) :
    lineOffset (line :: rest) (n + 1) = line.utf8ByteSize + 1 + lineOffset rest n := rfl

theorem lineOffset_drop {lines : List String} {m n : Nat} (hmn : m ≤ n) (h : m ≤ lines.length) :
    lineOffset lines n = lineOffset lines m + lineOffset (lines.drop m) (n - m) := by
  induction m generalizing lines n with
  | zero => simp
  | succ m ih =>
      obtain ⟨n, rfl⟩ : ∃ k, n = k + 1 := ⟨n - 1, by omega⟩
      cases lines with
      | nil => simp at h
      | cons line rest =>
          rw [List.drop_succ_cons, lineOffset_cons_succ, lineOffset_cons_succ,
            ih (Nat.le_of_succ_le_succ hmn) (Nat.le_of_succ_le_succ h), Nat.add_sub_add_right]
          omega

theorem drop_lineOffset {lines : List String} {n : Nat} (h : n < lines.length) :
    (Utf8.encode ("\n".intercalate lines)).drop (lineOffset lines n)
      = Utf8.encode ("\n".intercalate (lines.drop n)) := by
  induction n generalizing lines with
  | zero => simp
  | succ n ih =>
      cases lines with
      | nil => simp at h
      | cons line rest =>
          have hrest : n < rest.length := Nat.lt_of_succ_lt_succ h
          rw [List.drop_succ_cons, lineOffset_cons_succ,
            encode_intercalate_cons line (List.ne_nil_of_length_pos (by omega)), ← length_encode,
            ← ih hrest, List.drop_append, List.drop_eq_nil_of_le (by omega), List.nil_append,
            show (Utf8.encode line).length + 1 + lineOffset rest n - (Utf8.encode line).length
              = lineOffset rest n + 1 by omega, List.drop_succ_cons]

theorem take_lineOffset {lines : List String} {n : Nat} (h : n < lines.length) :
    (Utf8.encode ("\n".intercalate lines)).take (lineOffset lines n + lines[n].utf8ByteSize)
      = Utf8.encode ("\n".intercalate (lines.take (n + 1))) := by
  induction n generalizing lines with
  | zero =>
      cases lines with
      | nil => simp at h
      | cons line rest =>
          rw [lineOffset_zero, Nat.zero_add, List.getElem_cons_zero, List.take_succ_cons,
            List.take_zero, String.intercalate_singleton, ← length_encode]
          by_cases hrest : rest = []
          · rw [hrest, String.intercalate_singleton, List.take_length]
          · rw [encode_intercalate_cons line hrest, List.take_left]
  | succ n ih =>
      cases lines with
      | nil => simp at h
      | cons line rest =>
          have hrest : n < rest.length := Nat.lt_of_succ_lt_succ h
          have hne : rest ≠ [] := List.ne_nil_of_length_pos (by omega)
          have hlen : line.utf8ByteSize + 1 + lineOffset rest n + rest[n].utf8ByteSize
              = (Utf8.encode line).length + ((lineOffset rest n + rest[n].utf8ByteSize) + 1) := by
            rw [length_encode]
            omega
          rw [lineOffset_cons_succ, List.getElem_cons_succ, List.take_succ_cons, hlen,
            encode_intercalate_cons line hne, List.take_length_add_append, List.take_succ_cons,
            ih hrest, encode_intercalate_cons line]
          rw [Ne, List.take_eq_nil_iff]
          simp [hne]

theorem slice_lineOffset {lines : List String} {m n : Nat} (hmn : m ≤ n) (h : n < lines.length) :
    Utf8.slice (Utf8.encode ("\n".intercalate lines)) (lineOffset lines m)
        (lineOffset lines n + lines[n].utf8ByteSize)
      = Utf8.encode ("\n".intercalate ((lines.drop m).take (n + 1 - m))) := by
  have hdrop : n - m < (lines.drop m).length := by rw [List.length_drop]; omega
  have hget : (lines.drop m)[n - m] = lines[n] := by
    rw [List.getElem_drop]
    congr 1
    omega
  rw [Utf8.slice, drop_lineOffset (by omega), lineOffset_drop hmn (by omega), Nat.add_assoc,
    Nat.add_sub_cancel_left, ← hget, take_lineOffset hdrop, Nat.sub_add_comm hmn]

theorem linesBetween_eq_map {lines : List String} {s : Nat × Nat} (hs : 1 ≤ s.1 ∧ s.1 ≤ s.2)
    (h : s.2 ≤ lines.length) :
    linesBetween lines s
      = (List.range' s.1 (s.2 + 1 - s.1)).map fun l => lines[l - 1]?.getD "" := by
  rw [linesBetween]
  apply List.ext_getElem
  · simp only [List.length_take, List.length_drop, List.length_map, List.length_range']
    omega
  · intro i h₁ h₂
    simp only [List.length_map, List.length_range'] at h₂
    simp only [List.getElem_take, List.getElem_drop, List.getElem_map, List.getElem_range']
    rw [show s.1 + 1 * i - 1 = s.1 - 1 + i by omega, List.getElem?_eq_getElem (by omega),
      Option.getD_some]

end Dissect.Partition
