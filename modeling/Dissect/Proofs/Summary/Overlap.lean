import Dissect.Proofs.Summary.Chunks
import Mathlib.Algebra.BigOperators.Group.List.Basic
import Mathlib.Data.List.Chain

namespace Dissect.Summary

open Text

/-- The second text begins with the last `shared` characters of the first and goes on behind them.
-/
def Overlaps (shared : Nat) (a b : String) : Prop :=
  ∃ front common back : List Char, a.toList = front ++ common ∧ b.toList = common ++ back ∧
    common.length = shared ∧ back ≠ []

theorem Overlaps.lt_length {shared : Nat} {a b : String} (h : Overlaps shared a b) :
    shared < b.length := by
  obtain ⟨front, common, back, -, hb, rfl, hback⟩ := h
  rw [← String.length_toList, hb, List.length_append]
  have := List.length_pos_iff.mpr hback
  omega

/-- A text cut into chunks of at most `chunkSize` tokens, each of which but the first shares
`overlapSize` tokens with the one before it. -/
structure IsCut (chunkSize overlapSize : Int) (text : String) (parts : List String) : Prop where
  empty : parts = [] ↔ text = ""
  nonempty : ∀ part ∈ parts, part ≠ ""
  length_le : ∀ part ∈ parts, (part.length : Int) ≤ chunkSize * tokenLength
  tokens_le : ∀ part ∈ parts, (tokenCount part : Int) ≤ chunkSize
  longer : ∀ part ∈ parts.tail, overlapSize * tokenLength < part.length
  overlaps : parts.IsChain (Overlaps (overlapSize * tokenLength).toNat)
  rejoins : rejoin (overlapSize * tokenLength).toNat parts = text

section

variable {text : Array Char} {window overlap start : Nat} {places : List (Nat × Nat)}

theorem Places.exists_cons (h : Places text window overlap start places) :
    ∃ stop rest, places = (start, stop) :: rest := by
  cases h with
  | last hstart hend => exact ⟨_, _, rfl⟩
  | more hend hrest => exact ⟨_, _, rfl⟩

/-- A chunk that starts in front of the last characters it could share is longer than these. -/
theorem Places.longer (hoverlap : overlap < window) (h : Places text window overlap start places)
    (hstart : start + overlap < text.size) {s : Nat × Nat} (hs : s ∈ places) :
    s.1 + overlap < s.2 := by
  induction h with
  | last hless hend =>
      obtain rfl := List.mem_singleton.mp hs
      exact hstart
  | more hend hrest ih =>
      have hbounds := bounds_stopAt hoverlap hend
      rcases List.mem_cons.mp hs with rfl | hs
      · exact hbounds.1
      · apply ih _ hs
        omega

theorem Places.isChain (hoverlap : overlap < window)
    (h : Places text window overlap start places) :
    places.IsChain fun s s' => s.1 + overlap < s.2 ∧ s'.1 + overlap = s.2 ∧ s.2 < s'.2 := by
  induction h with
  | last hstart hend => exact List.isChain_singleton _
  | @more start rest hend hrest ih =>
      have hbounds := bounds_stopAt hoverlap hend
      have hnext : stopAt text window overlap start - overlap + overlap
          = stopAt text window overlap start := Nat.sub_add_cancel (by omega)
      obtain ⟨stop, later, rfl⟩ := hrest.exists_cons
      have hsecond := hrest.longer hoverlap (by omega) List.mem_cons_self
      refine List.isChain_cons_cons.mpr ⟨⟨hbounds.1, hnext, ?_⟩, ih⟩
      omega

end

theorem exists_rel_of_mem_tail {α : Type} {R : α → α → Prop} {l : List α} (h : l.IsChain R) {b : α}
    (hb : b ∈ l.tail) : ∃ a, R a b := by
  induction l with
  | nil => cases hb
  | cons a l ih =>
      cases l with
      | nil => cases hb
      | cons c l =>
          obtain ⟨hfirst, hrest⟩ := List.isChain_cons_cons.mp h
          rcases List.mem_cons.mp hb with rfl | hb
          · exact ⟨a, hfirst⟩
          · exact ih hrest hb

theorem take_drop_append {α : Type} (l : List α) {i j k : Nat} (hij : i ≤ j) (hjk : j ≤ k) :
    (l.take k).drop i = (l.take j).drop i ++ (l.take k).drop j := by
  have hfront : (l.take j).drop i = ((l.take k).drop i).take (j - i) := by
    rw [List.drop_take, List.drop_take, List.take_take, min_eq_left (by omega)]
  have hback : (l.take k).drop j = ((l.take k).drop i).drop (j - i) := by
    rw [List.drop_drop, Nat.add_sub_cancel' hij]
  rw [hfront, hback, List.take_append_drop]

theorem overlaps_of_places {text : List Char} {overlap : Nat} {s s' : Nat × Nat}
    (hlong : s.1 + overlap < s.2) (hnext : s'.1 + overlap = s.2) (hstop : s.2 < s'.2)
    (hend : s'.2 ≤ text.length) :
    Overlaps overlap (String.ofList ((text.take s.2).drop s.1))
      (String.ofList ((text.take s'.2).drop s'.1)) := by
  refine ⟨(text.take s'.1).drop s.1, (text.take s.2).drop s'.1, (text.take s'.2).drop s.2, ?_, ?_,
    ?_, ?_⟩
  · rw [String.toList_ofList]
    exact take_drop_append text (by omega) (by omega)
  · rw [String.toList_ofList]
    exact take_drop_append text (by omega) (by omega)
  · rw [List.length_drop, List.length_take]
    omega
  · apply List.ne_nil_of_length_pos
    rw [List.length_drop, List.length_take]
    omega

theorem tokenCount_le_of_length_le {text : String} {size : Int}
    (h : (text.length : Int) ≤ size * tokenLength) : (tokenCount text : Int) ≤ size := by
  rw [tokenLength] at h
  rw [tokenCount, tokenLength]
  omega

section

variable {chunkSize overlapSize : Int}

theorem isChain_chunks (h : 0 ≤ overlapSize) (hlt : overlapSize < chunkSize) (text : String) :
    (chunks text chunkSize overlapSize).IsChain (Overlaps (overlapSize * tokenLength).toNat) := by
  by_cases htext : text = ""
  · rw [htext, chunks_empty]
    exact .nil
  · obtain ⟨window, overlap, places, -, hoverlap, hless, hplaces, hchunks⟩ :=
      exists_places_chunks h hlt htext
    rw [hchunks, ← hoverlap, Int.toNat_natCast, List.isChain_map]
    have hends : ∀ s ∈ places, s.2 ≤ text.toList.length :=
      fun s hs => (hplaces.bounds hless hs).2.2
    refine (hplaces.isChain hless).imp_of_mem_imp ?_
    rintro s s' - hs' ⟨hlong, hnext, hstop⟩
    exact overlaps_of_places hlong hnext hstop (hends s' hs')

theorem ne_empty_of_mem_chunks (h : 0 ≤ overlapSize) (hlt : overlapSize < chunkSize)
    {text part : String} (hpart : part ∈ chunks text chunkSize overlapSize) : part ≠ "" := by
  by_cases htext : text = ""
  · rw [htext, chunks_empty] at hpart
    cases hpart
  · obtain ⟨window, overlap, places, -, -, hless, hplaces, hchunks⟩ :=
      exists_places_chunks h hlt htext
    rw [hchunks] at hpart
    obtain ⟨s, hs, rfl⟩ := List.mem_map.mp hpart
    have hbounds := hplaces.bounds hless hs
    rw [List.size_toArray] at hbounds
    intro hnone
    have hlength := congrArg String.length hnone
    rw [String.length_ofList, List.length_drop, List.length_take, String.length_empty] at hlength
    omega

theorem chunks_eq_nil_iff (h : 0 ≤ overlapSize) (hlt : overlapSize < chunkSize) (text : String) :
    chunks text chunkSize overlapSize = [] ↔ text = "" := by
  constructor
  · intro hnil
    rw [← rejoin_chunks h hlt text, hnil, rejoin]
  · rintro rfl
    exact chunks_empty

theorem isCut_chunks (h : 0 ≤ overlapSize) (hlt : overlapSize < chunkSize) (text : String) :
    IsCut chunkSize overlapSize text (chunks text chunkSize overlapSize) where
  empty := chunks_eq_nil_iff h hlt text
  nonempty _ hpart := ne_empty_of_mem_chunks h hlt hpart
  length_le _ hpart := length_le_of_mem_chunks h hlt hpart
  tokens_le _ hpart := tokenCount_le_of_length_le (length_le_of_mem_chunks h hlt hpart)
  longer part hpart := by
    obtain ⟨earlier, hoverlaps⟩ := exists_rel_of_mem_tail (isChain_chunks h hlt text) hpart
    have hlength := hoverlaps.lt_length
    omega
  overlaps := isChain_chunks h hlt text
  rejoins := rejoin_chunks h hlt text

theorem IsCut.length_parts_le (h : 0 ≤ overlapSize) {text : String} {parts : List String}
    (hcut : IsCut chunkSize overlapSize text parts) : parts.length ≤ text.length := by
  have hnonempty := hcut.nonempty
  have hlonger := hcut.longer
  rw [← hcut.rejoins]
  cases parts with
  | nil => exact Nat.zero_le _
  | cons first rest =>
      have hfirst : 0 < first.toList.length := by
        rw [List.length_pos_iff, ne_eq, String.toList_eq_nil_iff]
        exact hnonempty first List.mem_cons_self
      have hrest : rest.length ≤ (rest.map fun part =>
          (part.toList.drop (overlapSize * tokenLength).toNat).length).sum := by
        have heach := List.length_le_sum_of_one_le (rest.map fun part =>
          (part.toList.drop (overlapSize * tokenLength).toNat).length) ?_
        · rwa [List.length_map] at heach
        · intro n hn
          obtain ⟨part, hpart, rfl⟩ := List.mem_map.mp hn
          have hlength := hlonger part hpart
          rw [tokenLength] at hlength ⊢
          rw [List.length_drop, String.length_toList]
          omega
      rw [rejoin, String.length_ofList, List.length_append, List.length_flatMap, List.length_cons]
      omega

end

/-- A text is cut into chunks that lose nothing, are not too long, and of which each but the first
begins with what it shares with the one before it and goes on behind that. -/
theorem cutText_isCut {chunkSize overlapSize : Int} (h : 0 ≤ overlapSize)
    (hlt : overlapSize < chunkSize) (text : String) :
    ∃ parts, cutText text chunkSize overlapSize = .ok parts ∧
      IsCut chunkSize overlapSize text parts ∧ parts.length ≤ text.length := by
  have hcut := isCut_chunks h hlt text
  refine ⟨chunks text chunkSize overlapSize, ?_, hcut, hcut.length_parts_le h⟩
  rw [cutText, if_neg (not_le.mpr hlt)]

theorem cutText_isCut_mixed :
    (0 : Int) ≤ 1 ∧ (1 : Int) < 2 ∧
      chunks "abcdef;gh\nijklmnop" 2 1 = ["abcdef;", "def;gh\n", ";gh\nijkl", "ijklmnop"] ∧
      ∃ parts, cutText "abcdef;gh\nijklmnop" 2 1 = .ok parts ∧
        IsCut 2 1 "abcdef;gh\nijklmnop" parts ∧
        parts.length ≤ "abcdef;gh\nijklmnop".length :=
  ⟨by decide, by decide, by decide +kernel, cutText_isCut (by decide) (by decide) _⟩

end Dissect.Summary
