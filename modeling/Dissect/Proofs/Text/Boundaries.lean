import Dissect.Proofs.Text.Utf8
import Mathlib.Data.List.Basic

namespace Dissect.Text.Utf8

/-- The offset stands between two characters of a text, or at one of its ends. -/
def IsBoundary (text : String) (n : Nat) : Prop :=
  ∃ front back, text = front ++ back ∧ (encode front).length = n

theorem eq_empty_of_encode {a : String} (h : encode a = []) : a = "" := by
  have hread := decode_eq_ok_iff.mpr h.symm
  rw [decode, pieces_nil] at hread
  cases hread
  rfl

theorem exists_front_of_le {a b c d : String} (h : a ++ b = c ++ d)
    (hle : (encode a).length ≤ (encode c).length) : ∃ m, c = a ++ m ∧ b = m ++ d := by
  have hlists := congrArg String.toList h
  rw [String.toList_append, String.toList_append] at hlists
  rcases List.append_eq_append_iff.mp hlists with ⟨m, hc, hb⟩ | ⟨m, ha, hd⟩
  · refine ⟨String.ofList m, ?_, ?_⟩ <;> simp [← String.toList_inj, hc, hb]
  · have hback : a = c ++ String.ofList m := by simp [← String.toList_inj, ha]
    have hnone : encode (String.ofList m) = [] := by
      rw [hback, encode_append, List.length_append] at hle
      exact List.eq_nil_of_length_eq_zero (by omega)
    obtain rfl : m = [] := by simpa [← String.toList_inj] using eq_empty_of_encode hnone
    refine ⟨"", ?_, ?_⟩
    · simp [hback]
    · simp [← String.toList_inj, hd]

/-- What lies between two boundaries is a text. -/
theorem exists_slice {text : String} {m n : Nat} (hm : IsBoundary text m)
    (hn : IsBoundary text n) : ∃ s, slice (encode text) m n = encode s := by
  obtain ⟨a, b, rfl, rfl⟩ := hm
  obtain ⟨c, d, htext, rfl⟩ := hn
  rw [slice, encode_append, List.drop_left]
  rcases Nat.le_total (encode a).length (encode c).length with hle | hle
  · obtain ⟨s, rfl, rfl⟩ := exists_front_of_le htext hle
    refine ⟨s, ?_⟩
    rw [encode_append, encode_append, List.length_append, Nat.add_sub_cancel_left, List.take_left]
  · refine ⟨"", ?_⟩
    rw [Nat.sub_eq_zero_of_le hle, List.take_zero]
    rfl

theorem flatMap_utf8EncodeChar_of_ascii {cs : List Char} (h : ∀ c ∈ cs, c.val ≤ 127) :
    cs.flatMap String.utf8EncodeChar = cs.map fun c => c.val.toUInt8 := by
  rw [List.map_eq_flatMap]
  refine List.flatMap_congr fun c hc => ?_
  exact String.utf8EncodeChar_eq_singleton (Char.utf8Size_eq_one_iff.mpr (h c hc))

theorem exists_slice_of_ascii {text : String} (h : ∀ c ∈ text.toList, c.val ≤ 127) (m n : Nat) :
    ∃ s, slice (encode text) m n = encode s := by
  refine ⟨String.ofList ((text.toList.drop m).take (n - m)), ?_⟩
  have hpart : ∀ c ∈ (text.toList.drop m).take (n - m), c.val ≤ 127 :=
    fun c hc => h c (List.mem_of_mem_drop (List.mem_of_mem_take hc))
  rw [slice, encode, encode, String.toList_ofList, flatMap_utf8EncodeChar_of_ascii h,
    flatMap_utf8EncodeChar_of_ascii hpart, List.map_take, List.map_drop]

end Dissect.Text.Utf8
