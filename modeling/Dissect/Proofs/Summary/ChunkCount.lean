import Dissect.Proofs.Summary.ChunkEnds
import Mathlib.Data.Rat.Floor
import Mathlib.Tactic.Linarith

namespace Dissect.Summary

open Text

def fewestChunks (chunkSize overlapSize length : Nat) : Int :=
  max 1 ⌈((length : ℚ) - 4 * overlapSize) / (4 * chunkSize - 4 * overlapSize)⌉

/-- The least that a chunk but the last goes on by. -/
def leastAdvance (chunkSize overlapSize : Nat) : Int :=
  max (2 * chunkSize) (4 * overlapSize + 1) + 1 - 4 * overlapSize

/-- How many chunks there can be of a text. -/
structure IsChunkCount (chunkSize overlapSize : Nat) (text : String) (count : Nat) : Prop where
  fewest_le : fewestChunks chunkSize overlapSize text.length ≤ count
  le_most : 2 ≤ count →
    ((count : Int) - 1) * leastAdvance chunkSize overlapSize ≤ text.length - 1 - 4 * overlapSize
  unbroken : (∀ p ∈ [['\n'], ['.', ' '], [';']], ¬ p <:+: text.toList) →
    (count : Int) = fewestChunks chunkSize overlapSize text.length

section

variable {text : Array Char} {window overlap start : Nat} {places : List (Nat × Nat)}

theorem Places.size_le {most : Nat} (hwindow : window = overlap + most) (hmost : 0 < most)
    (h : Places text window overlap start places) :
    text.size ≤ start + overlap + places.length * most := by
  induction h with
  | last hstart hend =>
      rw [List.length_singleton, Nat.one_mul]
      omega
  | more hend hrest ih =>
      have hoverlap : overlap < window := by omega
      have hbounds := bounds_stopAt hoverlap hend
      rw [List.length_cons, Nat.succ_mul]
      omega

theorem Places.lt_size {least : Nat} (hoverlap : overlap < window)
    (hleast : ∀ s, s + window < text.size → s + overlap + least ≤ stopAt text window overlap s)
    (h : Places text window overlap start places) (hstart : start + overlap < text.size) :
    start + overlap + (places.length - 1) * least < text.size := by
  induction h with
  | last hless hend => simpa using hstart
  | @more start rest hend hrest ih =>
      have hbounds := bounds_stopAt hoverlap hend
      have hstep := hleast start hend
      have hall := ih (by omega)
      obtain ⟨stop, later, rfl⟩ := hrest.exists_cons
      rw [List.length_cons, Nat.add_sub_cancel] at hall
      rw [List.length_cons, Nat.add_sub_cancel, List.length_cons, Nat.succ_mul]
      omega

theorem Places.overlap_lt_size (hoverlap : overlap < window)
    (h : Places text window overlap 0 places) (hcount : 2 ≤ places.length) :
    overlap < text.size := by
  cases h with
  | last hstart hend => simp at hcount
  | more hend hrest => omega

theorem low_lt_stopAt (hoverlap : overlap + 1 < window) (h : start + window < text.size) :
    start + max (window / 2) (overlap + 1) < stopAt text window overlap start := by
  have hless : overlap < window := by omega
  have hpos : ∀ p ∈ boundaries, 0 < p.length := by decide
  have hlength : ((text.toList.drop start).take window).length = window := by
    rw [List.length_take, List.length_drop, Array.length_toList]
    omega
  have hlow := (endsWell_stopAt hless h).low_lt hpos (by omega)
  omega

theorem stopAt_eq_of_unbroken (hoverlap : overlap < window) (h : start + window < text.size)
    (hunbroken : ∀ p ∈ [['\n'], ['.', ' '], [';']], ¬ p <:+: text.toList) :
    stopAt text window overlap start = start + window := by
  have hbounds := bounds_stopAt hoverlap h
  have hlength : ((text.toList.drop start).take window).length = window := by
    rw [List.length_take, List.length_drop, Array.length_toList]
    omega
  have hends := endsWell_stopAt hoverlap h
  generalize hn : stopAt text window overlap start - start = n at hends
  cases hends with
  | @behind _ _ pattern i hpatterns _ hhere _ =>
      have hinfix : pattern <:+: text.toList :=
        hhere.2.isInfix.trans ((List.drop_suffix _ _).isInfix.trans
          ((List.take_prefix _ _).isInfix.trans (List.drop_suffix _ _).isInfix))
      have hhas : ∀ p ∈ boundaries, ∃ q ∈ [['\n'], ['.', ' '], [';']], q <:+: p := by decide
      obtain ⟨q, hq, hqp⟩ := hhas pattern (by simp [hpatterns])
      exact absurd (hqp.trans hinfix) (hunbroken q hq)
  | whole _ => omega

end

section

variable {chunkSize overlapSize most length count : Nat}

theorem fewestChunks_eq (hmost : 4 * chunkSize = 4 * overlapSize + most) :
    fewestChunks chunkSize overlapSize length
      = max 1 ⌈((length : ℚ) - 4 * overlapSize) / most⌉ := by
  have hcast : (4 * chunkSize - 4 * overlapSize : ℚ) = most := by
    have : (4 * chunkSize : ℚ) = 4 * overlapSize + most := by exact_mod_cast hmost
    linarith
  rw [fewestChunks, hcast]

theorem fewestChunks_le (hmost : 4 * chunkSize = 4 * overlapSize + most) (hpos : 0 < most)
    (hcount : 1 ≤ count) (hlength : length ≤ 4 * overlapSize + count * most) :
    fewestChunks chunkSize overlapSize length ≤ count := by
  have hpos' : (0 : ℚ) < most := by exact_mod_cast hpos
  have hlength' : (length : ℚ) ≤ 4 * overlapSize + count * most := by exact_mod_cast hlength
  rw [fewestChunks_eq hmost, max_le_iff, Int.ceil_le, div_le_iff₀ hpos']
  constructor
  · omega
  · push_cast
    linarith

theorem le_fewestChunks (hmost : 4 * chunkSize = 4 * overlapSize + most) (hpos : 0 < most)
    (hlength : 2 ≤ count → 4 * overlapSize + (count - 1) * most < length) :
    (count : Int) ≤ fewestChunks chunkSize overlapSize length := by
  rw [fewestChunks_eq hmost, le_max_iff]
  rcases Nat.lt_or_ge count 2 with hone | hmore
  · left
    omega
  · right
    have hpos' : (0 : ℚ) < most := by exact_mod_cast hpos
    obtain ⟨k, rfl⟩ : ∃ k, count = k + 1 := ⟨count - 1, by omega⟩
    have hlength' : (4 * overlapSize + k * most : ℚ) < length := by
      exact_mod_cast hlength hmore
    rw [Nat.cast_succ, Int.add_one_le_iff, Int.lt_ceil, lt_div_iff₀ hpos']
    push_cast
    linarith

/-- Chunks but the last go on by the nearest boundary at least. -/
theorem Places.mul_leastAdvance_le {text : Array Char} {places : List (Nat × Nat)}
    (hlt : overlapSize < chunkSize)
    (h : Places text (4 * chunkSize) (4 * overlapSize) 0 places) (hcount : 2 ≤ places.length) :
    ((places.length : Int) - 1) * leastAdvance chunkSize overlapSize
      ≤ text.size - 1 - 4 * overlapSize := by
  have hoverlap : 4 * overlapSize < 4 * chunkSize := by omega
  obtain ⟨least, hleast⟩ : ∃ least : Nat,
      max (2 * chunkSize) (4 * overlapSize + 1) + 1 = 4 * overlapSize + least :=
    ⟨max (2 * chunkSize) (4 * overlapSize + 1) + 1 - 4 * overlapSize, by omega⟩
  have hadvance : leastAdvance chunkSize overlapSize = least := by
    rw [leastAdvance]
    omega
  have hstop : ∀ s, s + 4 * chunkSize < text.size →
      s + 4 * overlapSize + least ≤ stopAt text (4 * chunkSize) (4 * overlapSize) s := by
    intro s hs
    have hnear : 4 * overlapSize + 1 < 4 * chunkSize := by omega
    have := low_lt_stopAt hnear hs
    omega
  have hstart := h.overlap_lt_size hoverlap hcount
  have hless := h.lt_size hoverlap hstop (by omega)
  obtain ⟨k, hk⟩ : ∃ k, places.length = k + 1 := ⟨places.length - 1, by omega⟩
  rw [hk, Nat.add_sub_cancel] at hless
  rw [hadvance, hk, Nat.cast_succ, add_sub_cancel_right]
  have : ((k * least : Nat) : Int) ≤ text.size - 1 - 4 * overlapSize := by omega
  exact_mod_cast this

theorem Places.length_le_fewestChunks {text : Array Char} {places : List (Nat × Nat)}
    (hmost : 4 * chunkSize = 4 * overlapSize + most) (hpos : 0 < most)
    (h : Places text (4 * chunkSize) (4 * overlapSize) 0 places)
    (hunbroken : ∀ p ∈ [['\n'], ['.', ' '], [';']], ¬ p <:+: text.toList) :
    (places.length : Int) ≤ fewestChunks chunkSize overlapSize text.size := by
  have hoverlap : 4 * overlapSize < 4 * chunkSize := by omega
  have hstop : ∀ s, s + 4 * chunkSize < text.size →
      s + 4 * overlapSize + most ≤ stopAt text (4 * chunkSize) (4 * overlapSize) s := by
    intro s hs
    rw [stopAt_eq_of_unbroken hoverlap hs hunbroken]
    omega
  refine le_fewestChunks hmost hpos fun hcount => ?_
  have hstart := h.overlap_lt_size hoverlap hcount
  have hless := h.lt_size hoverlap hstop (by omega)
  rwa [Nat.zero_add] at hless

theorem Places.isChunkCount (hlt : overlapSize < chunkSize) {text : String}
    {places : List (Nat × Nat)}
    (h : Places text.toList.toArray (4 * chunkSize) (4 * overlapSize) 0 places) :
    IsChunkCount chunkSize overlapSize text places.length := by
  obtain ⟨most, hmost⟩ : ∃ most, 4 * chunkSize = 4 * overlapSize + most :=
    ⟨4 * chunkSize - 4 * overlapSize, by omega⟩
  have hpos : 0 < most := by omega
  have hsize : text.toList.toArray.size = text.length := by
    rw [List.size_toArray, String.length_toList]
  have hone : 1 ≤ places.length := by
    obtain ⟨stop, rest, rfl⟩ := h.exists_cons
    simp
  have hlength := h.size_le hmost hpos
  rw [hsize, Nat.zero_add] at hlength
  have hfewest := fewestChunks_le hmost hpos hone hlength
  refine ⟨hfewest, fun hcount => ?_, fun hunbroken => le_antisymm ?_ hfewest⟩
  · rw [← hsize]
    exact h.mul_leastAdvance_le hlt hcount
  · rw [← hsize]
    exact h.length_le_fewestChunks hmost hpos hunbroken

end

/-- The number of chunks of a text is that of one that is cut as seldom as can be where no boundary
stands in it, and else not less, and bounded by the nearest boundaries. -/
theorem cutText_isChunkCount {chunkSize overlapSize : Nat} (hlt : overlapSize < chunkSize)
    {text : String} (htext : text ≠ "") :
    ∃ parts, cutText text chunkSize overlapSize = .ok parts ∧
      IsChunkCount chunkSize overlapSize text parts.length := by
  obtain ⟨places, hplaces, hcut⟩ := exists_places_cutText hlt htext
  refine ⟨_, hcut, ?_⟩
  rw [List.length_map]
  exact hplaces.isChunkCount hlt

/-- A text whose boundaries cost one chunk more than the fewest. -/
theorem cutText_isChunkCount_mixed :
    let text := "abcdef\n\ngh;ijklm. nopqrstuvwxyz"
    1 < 3 ∧ text ≠ "" ∧ fewestChunks 3 1 text.length = 4 ∧
      (chunks text (3 : Nat) (1 : Nat)).length = 5 ∧
      ∃ parts, cutText text (3 : Nat) (1 : Nat) = .ok parts ∧
        IsChunkCount 3 1 text parts.length := by
  refine ⟨by decide, by decide, ?_, by decide +kernel, cutText_isChunkCount (by decide) (by decide)⟩
  have hlength : "abcdef\n\ngh;ijklm. nopqrstuvwxyz".length = 31 := by decide
  rw [hlength, fewestChunks]
  norm_num

end Dissect.Summary
