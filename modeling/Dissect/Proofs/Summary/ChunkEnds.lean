import Dissect.Proofs.Summary.Overlap

/-!
Where chunks end. The last one ends with the text. Every other one ends at the strongest boundary in
the part of its window that is open to it, at the last place where that boundary stands, or with the
window where no boundary stands there.
-/

namespace Dissect.Summary

open Text

/-- A pattern stands at an index of a window, wholly from `low` on. -/
def Occurs (window : List Char) (low : Nat) (pattern : List Char) (i : Nat) : Prop :=
  low ≤ i ∧ pattern <+: window.drop i

/-- The lengths of a chunk that ends well in its window: up to behind the last place of a pattern
where no stronger one stands from `low` on, or up to the end where none stands there at all. -/
inductive EndsWell (patterns : List (List Char)) (window : List Char) (low : Nat) : Nat → Prop
  | behind {stronger weaker : List (List Char)} {pattern : List Char} {i : Nat}
      (hpatterns : patterns = stronger ++ pattern :: weaker)
      (hstronger : ∀ p ∈ stronger, ∀ j, ¬ Occurs window low p j)
      (hhere : Occurs window low pattern i)
      (hlast : ∀ j, Occurs window low pattern j → j ≤ i) :
      EndsWell patterns window low (i + pattern.length)
  | whole (hnone : ∀ p ∈ patterns, ∀ j, ¬ Occurs window low p j) :
      EndsWell patterns window low window.length

/-- Where a part starts that stands behind others, each of which shares as much with the next. -/
def startBehind (shared : Nat) (earlier : List String) : Nat :=
  (earlier.map fun part => part.length - shared).sum

/-- A part is cut off the rest of a text, with other parts behind it: paragraphs, lines, sentences
and statements are kept whole in this order. -/
structure CutOff (chunkSize overlapSize : Nat) (rest : List Char) (part : String)
    (later : List String) : Prop where
  front : part.toList <+: rest
  last : later = [] → rest.length ≤ 4 * chunkSize ∧ part.toList = rest
  inner : later ≠ [] → 4 * chunkSize < rest.length ∧
    EndsWell [['\n', '\n'], ['\n'], ['.', ' '], [';']] (rest.take (4 * chunkSize))
      (max (2 * chunkSize) (4 * overlapSize + 1)) part.length

section

variable {text : Array Char} {pattern : List Char} {low count i : Nat}

theorem standsAt_iff : standsAt text pattern i = true ↔ pattern <+: text.toList.drop i := by
  induction pattern generalizing i with
  | nil => simp [standsAt]
  | cons c rest ih =>
      rw [standsAt, Bool.and_eq_true, beq_iff_eq, ih]
      rcases Nat.lt_or_ge i text.size with hlt | hge
      · have hlength : i < text.toList.length := hlt
        rw [List.drop_eq_getElem_cons hlength, List.cons_prefix_cons, Array.getElem?_eq_getElem hlt]
        simp [eq_comm]
      · have hlength : text.toList.length ≤ i := hge
        rw [List.drop_eq_nil_of_le hlength, Array.getElem?_eq_none hge]
        simp

theorem lastOf_eq_some_iff : lastOf text pattern low count = some i ↔
    low ≤ i ∧ i < low + count ∧ standsAt text pattern i = true ∧
      ∀ j < low + count, standsAt text pattern j = true → j ≤ i := by
  induction count with
  | zero =>
      simp only [lastOf, reduceCtorEq, false_iff]
      omega
  | succ count ih =>
      rw [lastOf]
      split
      · rename_i hhere
        rw [Option.some_inj]
        constructor
        · rintro rfl
          exact ⟨by omega, by omega, hhere, fun j hj _ => by omega⟩
        · rintro ⟨-, hlt, -, hlast⟩
          have := hlast (low + count) (by omega) hhere
          omega
      · rename_i hhere
        rw [ih]
        -- As the pattern does not stand at the last place, both ranges have the same places of it.
        have hne : ∀ j, standsAt text pattern j = true → j ≠ low + count := by
          rintro j hj rfl
          exact hhere hj
        constructor
        · rintro ⟨hle, hlt, hi, hlast⟩
          refine ⟨hle, by omega, hi, fun j hj hstands => hlast j ?_ hstands⟩
          have := hne j hstands
          omega
        · rintro ⟨hle, hlt, hi, hlast⟩
          have := hne i hi
          exact ⟨hle, by omega, hi, fun j hj hstands => hlast j (by omega) hstands⟩

theorem lastOf_eq_none_iff : lastOf text pattern low count = none ↔
    ∀ j, low ≤ j → j < low + count → standsAt text pattern j = false := by
  induction count with
  | zero =>
      simp only [lastOf, true_iff]
      omega
  | succ count ih =>
      rw [lastOf]
      split
      · rename_i hhere
        simp only [reduceCtorEq, false_iff, not_forall]
        exact ⟨low + count, by omega, by omega, by simp [hhere]⟩
      · rename_i hhere
        rw [ih]
        constructor
        · intro h j hle hlt
          rcases Nat.lt_or_ge j (low + count) with hj | hj
          · exact h j hle hj
          · obtain rfl : j = low + count := by omega
            simpa using hhere
        · exact fun h j hle hlt => h j hle (by omega)

end

section

variable {text : Array Char} {pattern : List Char} {start window low : Nat}

theorem occurs_take_drop_iff (hpattern : 0 < pattern.length) {i : Nat} :
    Occurs ((text.toList.drop start).take window) low pattern i ↔
      low ≤ i ∧ i + pattern.length ≤ window ∧ standsAt text pattern (start + i) = true := by
  rw [Occurs, standsAt_iff, List.drop_take, List.prefix_take_iff, List.drop_drop]
  constructor
  · rintro ⟨hlow, hprefix, hlength⟩
    exact ⟨hlow, by omega, hprefix⟩
  · rintro ⟨hlow, hlength, hprefix⟩
    exact ⟨hlow, hprefix, by omega⟩

theorem lastBetween_eq (hlow : low ≤ window) (hsize : start + window ≤ text.size) :
    lastBetween text pattern (start + low : Nat) (start + window : Nat)
      = lastOf text pattern (start + low) (window + 1 - (low + pattern.length)) := by
  rw [lastBetween, position_natCast, position_natCast, min_eq_left hsize,
    min_eq_left (by omega)]
  congr 1
  omega

theorem lastBetween_eq_some_iff (hpattern : 0 < pattern.length) (hlow : low ≤ window)
    (hsize : start + window ≤ text.size) {i : Nat} :
    lastBetween text pattern (start + low : Nat) (start + window : Nat) = some (start + i) ↔
      Occurs ((text.toList.drop start).take window) low pattern i ∧
        ∀ j, Occurs ((text.toList.drop start).take window) low pattern j → j ≤ i := by
  simp only [lastBetween_eq hlow hsize, lastOf_eq_some_iff, occurs_take_drop_iff hpattern]
  constructor
  · rintro ⟨hle, hlt, hstands, hlast⟩
    refine ⟨⟨by omega, by omega, hstands⟩, ?_⟩
    rintro j ⟨hlowj, hlength, hj⟩
    have := hlast (start + j) (by omega) hj
    omega
  · rintro ⟨⟨hle, hlength, hstands⟩, hlast⟩
    refine ⟨by omega, by omega, hstands, fun j hj hstandsj => ?_⟩
    rcases Nat.lt_or_ge j (start + low) with hbefore | hfrom
    · omega
    · have hplace : start + (j - start) = j := by omega
      have := hlast (j - start) ⟨by omega, by omega, by rwa [hplace]⟩
      omega

theorem lastBetween_eq_none_iff (hpattern : 0 < pattern.length) (hlow : low ≤ window)
    (hsize : start + window ≤ text.size) :
    lastBetween text pattern (start + low : Nat) (start + window : Nat) = none ↔
      ∀ j, ¬ Occurs ((text.toList.drop start).take window) low pattern j := by
  simp only [lastBetween_eq hlow hsize, lastOf_eq_none_iff, occurs_take_drop_iff hpattern]
  constructor
  · rintro hnone j ⟨hle, hlength, hj⟩
    rw [hnone (start + j) (by omega) (by omega)] at hj
    cases hj
  · intro hnone j hle hlt
    have hplace : start + (j - start) = j := by omega
    refine Bool.eq_false_iff.mpr fun hj => hnone (j - start) ⟨by omega, by omega, ?_⟩
    rwa [hplace]

end

section

variable {text : Array Char} {window overlap start : Nat}

theorem endsWell_chunkEnd (hoverlap : overlap < window) (hsize : start + window ≤ text.size) :
    ∃ n : Nat, chunkEnd text start (start + window : Nat) overlap = (start + n : Nat) ∧
      EndsWell boundaries ((text.toList.drop start).take window)
        (max (window / 2) (overlap + 1)) n := by
  rw [chunkEnd_eq]
  generalize hm : max (window / 2) (overlap + 1) = low
  have hle : low ≤ window := by omega
  have hpos : ∀ p ∈ boundaries, 0 < p.length := by decide
  cases hfound : boundaries.findSome? fun b =>
      (lastBetween text b (start + low : Nat) (start + window : Nat)).map
        fun i : Nat => (i + b.length : Int) with
  | none =>
      refine ⟨window, by simp, ?_⟩
      have hlength : window = ((text.toList.drop start).take window).length := by
        rw [List.length_take, List.length_drop, Array.length_toList]
        omega
      nth_rewrite 2 [hlength]
      refine .whole fun p hp => ?_
      have hnone := List.findSome?_eq_none_iff.mp hfound p hp
      exact (lastBetween_eq_none_iff (hpos p hp) hle hsize).mp (Option.map_eq_none_iff.mp hnone)
  | some stop =>
      obtain ⟨stronger, pattern, weaker, hsplit, hhere, hbefore⟩ :=
        List.findSome?_eq_some_iff.mp hfound
      obtain ⟨i, hi, rfl⟩ := Option.map_eq_some_iff.mp hhere
      have hpattern : 0 < pattern.length := hpos pattern (by simp [hsplit])
      have hbounds := bounds_of_lastBetween hpattern hsize hi
      obtain ⟨k, rfl⟩ : ∃ k, i = start + k := ⟨i - start, by omega⟩
      obtain ⟨hoccurs, hlast⟩ := (lastBetween_eq_some_iff hpattern hle hsize).mp hi
      refine ⟨k + pattern.length, ?_, .behind hsplit ?_ hoccurs hlast⟩
      · rw [Option.getD_some]
        omega
      · intro p hp
        have hp' : p ∈ boundaries := by simp [hsplit, hp]
        exact (lastBetween_eq_none_iff (hpos p hp') hle hsize).mp
          (Option.map_eq_none_iff.mp (hbefore p hp))

theorem endsWell_stopAt (hoverlap : overlap < window) (h : start + window < text.size) :
    EndsWell boundaries ((text.toList.drop start).take window) (max (window / 2) (overlap + 1))
      (stopAt text window overlap start - start) := by
  obtain ⟨n, hn, hends⟩ := endsWell_chunkEnd hoverlap h.le
  rw [stopAt, if_pos h, hn, Int.toNat_natCast, Nat.add_sub_cancel_left]
  exact hends

theorem EndsWell.low_lt {patterns : List (List Char)} {w : List Char} {low n : Nat}
    (h : EndsWell patterns w low n) (hpatterns : ∀ p ∈ patterns, 0 < p.length)
    (hlow : low < w.length) : low < n := by
  cases h with
  | @behind _ _ pattern i hsplit hstronger hhere hlast =>
      have hpos := hpatterns pattern (by simp [hsplit])
      have hle : low ≤ i := hhere.1
      omega
  | whole hnone => exact hlow

end

section

variable {text : Array Char} {window overlap start : Nat}

theorem Places.behind (hoverlap : overlap < window) {places earlier later : List (Nat × Nat)}
    {s : Nat × Nat} (h : Places text window overlap start places)
    (hsplit : places = earlier ++ s :: later) :
    s.1 = start + (earlier.map fun e => e.2 - e.1 - overlap).sum ∧
      Places text window overlap s.1 (s :: later) := by
  induction earlier generalizing start places with
  | nil =>
      subst hsplit
      obtain ⟨stop, rest, hfirst⟩ := h.exists_cons
      obtain ⟨rfl, rfl⟩ := List.cons.inj hfirst
      exact ⟨by simp, h⟩
  | cons e earlier ih =>
      cases h with
      | last hstart hend => simp at hsplit
      | more hend hrest =>
          have hbounds := bounds_stopAt hoverlap hend
          obtain ⟨rfl, hrest'⟩ := List.cons.inj hsplit
          obtain ⟨hstart, hplaces⟩ := ih hrest hrest'
          refine ⟨?_, hplaces⟩
          rw [hstart, List.map_cons, List.sum_cons]
          omega

/-- The chunk at the first of several places is cut off the text from there on. -/
theorem Places.cutOff {chunkSize overlapSize : Nat} (hlt : overlapSize < chunkSize)
    {stop : Nat} {later : List (Nat × Nat)} {parts : List String}
    (h : Places text (4 * chunkSize) (4 * overlapSize) start ((start, stop) :: later))
    (hparts : parts.length = later.length) :
    CutOff chunkSize overlapSize (text.toList.drop start)
      (String.ofList ((text.toList.take stop).drop start)) parts := by
  have hoverlap : 4 * overlapSize < 4 * chunkSize := by omega
  have hlength : text.toList.length = text.size := Array.length_toList
  have hfront : (text.toList.take stop).drop start <+: text.toList.drop start := by
    rw [List.drop_take]
    exact List.take_prefix _ _
  cases h with
  | last hstart hend =>
      obtain rfl := List.length_eq_zero_iff.mp hparts
      refine ⟨by rwa [String.toList_ofList], fun _ => ⟨?_, ?_⟩, fun hne => absurd rfl hne⟩
      · rw [List.length_drop]
        omega
      · rw [String.toList_ofList, ← hlength, List.take_length]
  | more hend hrest =>
      have hbounds := bounds_stopAt hoverlap hend
      have hne : parts ≠ [] := by
        rintro rfl
        obtain ⟨stop, rest, rfl⟩ := hrest.exists_cons
        simp at hparts
      refine ⟨by rwa [String.toList_ofList], fun hnil => absurd hnil hne, fun _ => ⟨?_, ?_⟩⟩
      · rw [List.length_drop]
        omega
      · have hends := endsWell_stopAt hoverlap hend
        have hhalf : 4 * chunkSize / 2 = 2 * chunkSize := by omega
        rw [String.length_ofList, List.length_drop, List.length_take, min_eq_left (by omega),
          ← hhalf]
        exact hends

end

theorem exists_places_cutText {chunkSize overlapSize : Nat} (hlt : overlapSize < chunkSize)
    {text : String} (htext : text ≠ "") :
    ∃ places, Places text.toList.toArray (4 * chunkSize) (4 * overlapSize) 0 places ∧
      cutText text chunkSize overlapSize
        = .ok (places.map fun s => String.ofList ((text.toList.take s.2).drop s.1)) := by
  have hsizes : (overlapSize : Int) < chunkSize := by omega
  obtain ⟨window, overlap, places, hwindow, hoverlap, -, hplaces, hchunks⟩ :=
    exists_places_chunks (by omega) hsizes htext
  rw [tokenLength] at hwindow hoverlap
  obtain rfl : window = 4 * chunkSize := by omega
  obtain rfl : overlap = 4 * overlapSize := by omega
  refine ⟨places, hplaces, ?_⟩
  rw [cutText, if_neg (not_le.mpr hsizes), hchunks]

theorem startBehind_map {text : List Char} {shared : Nat} {earlier : List (Nat × Nat)}
    (h : ∀ s ∈ earlier, s.2 ≤ text.length) :
    startBehind shared (earlier.map fun s => String.ofList ((text.take s.2).drop s.1))
      = (earlier.map fun s => s.2 - s.1 - shared).sum := by
  rw [startBehind, List.map_map]
  congr 1
  refine List.map_congr_left fun s hs => ?_
  rw [Function.comp_apply, String.length_ofList, List.length_drop, List.length_take,
    min_eq_left (h s hs)]

/-- A text is cut at the strongest boundaries that are open to its chunks. -/
theorem cutText_endsWell {chunkSize overlapSize : Nat} (hlt : overlapSize < chunkSize)
    (text : String) :
    ∃ parts, cutText text chunkSize overlapSize = .ok parts ∧ (parts = [] ↔ text = "") ∧
      ∀ earlier part later, parts = earlier ++ part :: later →
        CutOff chunkSize overlapSize (text.toList.drop (startBehind (4 * overlapSize) earlier)) part
          later := by
  by_cases htext : text = ""
  · have hsizes : ¬ (chunkSize : Int) ≤ overlapSize := by omega
    refine ⟨[], ?_, by simp [htext], by simp⟩
    rw [cutText, if_neg hsizes, htext, chunks_empty]
  · obtain ⟨places, hplaces, hcut⟩ := exists_places_cutText hlt htext
    have hoverlap : 4 * overlapSize < 4 * chunkSize := by omega
    have hends : ∀ s ∈ places, s.2 ≤ text.toList.length :=
      fun s hs => (hplaces.bounds hoverlap hs).2.2
    refine ⟨_, hcut, ?_, ?_⟩
    · obtain ⟨stop, rest, rfl⟩ := hplaces.exists_cons
      simp [htext]
    · intro earlier part later hparts
      obtain ⟨front, rest, rfl, rfl, hrest⟩ := List.map_eq_append_iff.mp hparts
      obtain ⟨⟨start, stop⟩, behind, rfl, rfl, rfl⟩ := List.map_eq_cons_iff.mp hrest
      obtain ⟨hstart, hbehind⟩ := hplaces.behind hoverlap rfl
      rw [startBehind_map fun s hs => hends s (List.mem_append_left _ hs),
        ← Nat.zero_add (List.sum _), ← hstart]
      exact hbehind.cutOff hlt (by simp)

theorem cutText_endsWell_mixed :
    let text := "abcdef\n\ngh;ijklm. nopqrstuvwxyz"
    1 < 3 ∧
      chunks text (3 : Nat) (1 : Nat)
        = ["abcdef\n\n", "ef\n\ngh;", "\ngh;ijklm. ", "lm. nopqrstu", "rstuvwxyz"] ∧
      ∃ parts, cutText text (3 : Nat) (1 : Nat) = .ok parts ∧ (parts = [] ↔ text = "") ∧
        ∀ earlier part later, parts = earlier ++ part :: later →
          CutOff 3 1 (text.toList.drop (startBehind 4 earlier)) part later :=
  ⟨by decide, by decide +kernel, cutText_endsWell (by decide) _⟩

end Dissect.Summary
