import Dissect.Summary.Chunk
import Mathlib.Data.List.Basic
import Mathlib.Tactic.Ring

namespace Dissect.Summary

open Text

theorem position_natCast (n i : Nat) : position n i = min i n := by
  rw [position, if_neg (by omega), Int.toNat_natCast]

theorem toList_between (text : Array Char) {start stop : Nat} (h : stop ≤ text.size) :
    between text start stop = (text.toList.take stop).drop start := by
  rw [between, position_natCast, position_natCast, min_eq_left h, Array.toList_extract,
    List.extract_eq_take_drop]
  rw [List.drop_take]
  rcases le_total start text.size with hle | hle
  · rw [min_eq_left hle]
  · rw [min_eq_right hle, Nat.sub_eq_zero_of_le h, Nat.sub_eq_zero_of_le (h.trans hle)]
    simp

theorem bounds_of_lastOf {text : Array Char} {pattern : List Char} {low count i : Nat}
    (h : lastOf text pattern low count = some i) : low ≤ i ∧ i < low + count := by
  induction count with
  | zero => simp [lastOf] at h
  | succ count ih =>
      rw [lastOf] at h
      split at h
      · obtain rfl : low + count = i := Option.some.inj h
        omega
      · have := ih h
        omega

theorem bounds_of_lastBetween {text : Array Char} {pattern : List Char} {low stop i : Nat}
    (hpattern : 0 < pattern.length) (hstop : stop ≤ text.size)
    (h : lastBetween text pattern low stop = some i) :
    low ≤ i ∧ i + pattern.length ≤ stop := by
  rw [lastBetween, position_natCast, position_natCast, min_eq_left hstop] at h
  have := bounds_of_lastOf h
  omega

theorem chunkEnd_eq (text : Array Char) (start window overlap : Nat) :
    chunkEnd text start (start + window : Nat) overlap =
      (boundaries.findSome? fun b =>
        (lastBetween text b (start + max (window / 2) (overlap + 1) : Nat)
          (start + window : Nat)).map fun i : Nat => (i + b.length : Int)).getD
        (start + window : Nat) := by
  have hlow : (start : Int) + max (((start + window : Nat) - start : Int).fdiv 2) (overlap + 1)
      = (start + max (window / 2) (overlap + 1) : Nat) := by
    rw [Int.fdiv_eq_ediv_of_nonneg _ (by omega)]
    omega
  rw [chunkEnd, hlow]

theorem bounds_chunkEnd {text : Array Char} {start window overlap : Nat}
    (hoverlap : overlap < window) (hwindow : start + window ≤ text.size) :
    (start + overlap : Int) < chunkEnd text start (start + window : Nat) overlap ∧
      chunkEnd text start (start + window : Nat) overlap ≤ (start + window : Nat) := by
  rw [chunkEnd_eq]
  cases hfound : boundaries.findSome? fun b =>
      (lastBetween text b (start + max (window / 2) (overlap + 1) : Nat)
        (start + window : Nat)).map fun i : Nat => (i + b.length : Int) with
  | none =>
      rw [Option.getD_none]
      omega
  | some stop =>
      obtain ⟨b, hmem, hb⟩ := List.exists_of_findSome?_eq_some hfound
      obtain ⟨i, hi, rfl⟩ := Option.map_eq_some_iff.mp hb
      have hpos : ∀ b ∈ boundaries, 0 < b.length := by decide
      have := bounds_of_lastBetween (hpos b hmem) hwindow hi
      rw [Option.getD_some]
      omega

section

variable (text : Array Char) (window overlap : Nat)

/-- The end of the chunk that starts at a place. -/
def stopAt (start : Nat) : Nat :=
  if start + window < text.size then (chunkEnd text start (start + window : Nat) overlap).toNat
  else text.size

/-- The places of the chunks from one that starts at an index on: a chunk whose window holds the
rest of the text is the last, and another one starts the overlap before the end of each other. -/
inductive Places : Nat → List (Nat × Nat) → Prop
  | last {start : Nat} (hstart : start < text.size) (hend : text.size ≤ start + window) :
      Places start [(start, text.size)]
  | more {start : Nat} {rest : List (Nat × Nat)} (hend : start + window < text.size)
      (hrest : Places (stopAt text window overlap start - overlap) rest) :
      Places start ((start, stopAt text window overlap start) :: rest)

end

variable {text : Array Char} {window overlap : Nat}

theorem bounds_stopAt (hoverlap : overlap < window) {start : Nat}
    (h : start + window < text.size) :
    start + overlap < stopAt text window overlap start ∧
      stopAt text window overlap start ≤ start + window := by
  have := bounds_chunkEnd hoverlap h.le
  rw [stopAt, if_pos h]
  omega

theorem stop_eq_stopAt (hoverlap : overlap < window) (start : Nat) :
    (if min ((start : Int) + window) text.size < text.size then
      chunkEnd text start (min (start + window) text.size) overlap
      else min ((start : Int) + window) text.size) = (stopAt text window overlap start : Nat) := by
  rw [stopAt]
  rcases Nat.lt_or_ge (start + window) text.size with hmore | hlast
  · have hbounds := bounds_chunkEnd hoverlap hmore.le
    rw [if_pos (by omega), if_pos hmore, min_eq_left (by omega)]
    push_cast at hbounds ⊢
    omega
  · rw [min_eq_right (by omega), if_neg (by omega), if_neg (by omega)]

theorem exists_places_chunksOnto (hoverlap : overlap < window) {start : Nat}
    (hstart : start < text.size) (found : Array String) :
    ∃ places, Places text window overlap start places ∧
      (chunksOnto text window overlap found start).toList = found.toList ++
        places.map fun s => String.ofList ((text.toList.take s.2).drop s.1) := by
  -- The distance to the end falls, as every chunk ends past what it shares with the next.
  induction hn : text.size - start using Nat.strong_induction_on generalizing start found with
  | _ n ih =>
      rw [chunksOnto, if_pos (by omega)]
      dsimp only
      rw [stop_eq_stopAt hoverlap]
      rcases Nat.lt_or_ge (start + window) text.size with hmore | hlast
      · have hbounds := bounds_stopAt hoverlap hmore
        have hnext : max ((stopAt text window overlap start : Nat) - (overlap : Int)) (start + 1)
            = ((stopAt text window overlap start - overlap : Nat) : Int) := by omega
        rw [if_neg (by omega), toList_between text (by omega), hnext]
        obtain ⟨places, hplaces, hchunks⟩ := ih
          (text.size - (stopAt text window overlap start - overlap)) (by omega) (by omega)
          (found.push (String.ofList ((text.toList.take (stopAt text window overlap start)).drop
            start))) rfl
        refine ⟨_, .more hmore hplaces, ?_⟩
        rw [hchunks]
        simp
      · have hstop : stopAt text window overlap start = text.size := if_neg (by omega)
        rw [hstop, if_pos le_rfl, toList_between text le_rfl]
        exact ⟨_, .last hstart hlast, by simp⟩

section

variable {start : Nat} {places : List (Nat × Nat)}

theorem Places.bounds (hoverlap : overlap < window) (h : Places text window overlap start places)
    {s : Nat × Nat} (hs : s ∈ places) :
    s.1 < s.2 ∧ s.2 ≤ s.1 + window ∧ s.2 ≤ text.size := by
  induction h with
  | last hstart hend =>
      obtain rfl := List.mem_singleton.mp hs
      exact ⟨hstart, hend, le_rfl⟩
  | more hend hrest ih =>
      have hbounds := bounds_stopAt hoverlap hend
      rcases List.mem_cons.mp hs with rfl | hs
      · dsimp only
        omega
      · exact ih hs

theorem Places.covers (h : Places text window overlap start places) {i : Nat} (hi : start ≤ i)
    (hsize : i < text.size) : ∃ s ∈ places, s.1 ≤ i ∧ i < s.2 := by
  induction h with
  | last hstart hend => exact ⟨_, List.mem_singleton_self _, hi, hsize⟩
  | @more start rest hend hrest ih =>
      rcases Nat.lt_or_ge i (stopAt text window overlap start) with hlt | hge
      · exact ⟨_, List.mem_cons_self, hi, hlt⟩
      · obtain ⟨s, hs, hin⟩ := ih (by omega)
        exact ⟨s, List.mem_cons_of_mem _ hs, hin⟩

/-- The first chunk and the later ones without what they share with the one before them make up the
text. -/
theorem Places.rejoin (hoverlap : overlap < window) (h : Places text window overlap start places) :
    ∃ stop rest, places = (start, stop) :: rest ∧
      (start + overlap ≤ text.size → start + overlap ≤ stop) ∧
      (text.toList.take stop).drop start
          ++ rest.flatMap (fun s => ((text.toList.take s.2).drop s.1).drop overlap)
        = text.toList.drop start := by
  induction h with
  | last hstart hend =>
      refine ⟨text.size, [], rfl, fun hle => hle, ?_⟩
      rw [List.flatMap_nil, List.append_nil, ← Array.length_toList, List.take_length]
  | @more start rest hend hrest ih =>
      have hbounds := bounds_stopAt hoverlap hend
      obtain ⟨stop, later, rfl, hlong, hjoin⟩ := ih
      generalize stopAt text window overlap start = middle at *
      refine ⟨middle, _, rfl, fun _ => by omega, ?_⟩
      have hstop : middle ≤ stop := by omega
      have hshared : overlap ≤ ((text.toList.take stop).drop (middle - overlap)).length := by
        have hsize := hlong (by omega)
        rw [List.length_drop, List.length_take, Array.length_toList]
        omega
      -- Without what it shares, the text from the next chunk on is the text behind this one.
      have hlater : ((text.toList.take stop).drop (middle - overlap)).drop overlap
          ++ later.flatMap (fun s => ((text.toList.take s.2).drop s.1).drop overlap)
          = text.toList.drop middle := by
        rw [← List.drop_append_of_le_length hshared, hjoin, List.drop_drop,
          Nat.sub_add_cancel (by omega)]
      rw [List.flatMap_cons, hlater]
      have hsplit : text.toList.drop start
          = (text.toList.drop start).take (middle - start)
            ++ (text.toList.drop start).drop (middle - start) := (List.take_append_drop ..).symm
      rw [hsplit, List.drop_take, List.drop_drop, Nat.add_sub_cancel' (by omega)]

end

/-- The first part and the later ones without their first characters. -/
def rejoin (shared : Nat) : List String → String
  | [] => ""
  | first :: rest =>
      String.ofList (first.toList ++ rest.flatMap fun part => part.toList.drop shared)

def HoldsAt (text part : String) (i : Nat) : Prop :=
  ∃ before after, text.toList = before ++ (part.toList ++ after) ∧ before.length ≤ i ∧
    i < before.length + part.length

section

variable {chunkSize overlapSize : Int}

theorem exists_places_chunks (h : 0 ≤ overlapSize) (hlt : overlapSize < chunkSize) {text : String}
    (htext : text ≠ "") :
    ∃ (window overlap : Nat) (places : List (Nat × Nat)), (window : Int) = chunkSize * tokenLength ∧
      (overlap : Int) = overlapSize * tokenLength ∧ overlap < window ∧
      Places text.toList.toArray window overlap 0 places ∧
      chunks text chunkSize overlapSize
        = places.map fun s => String.ofList ((text.toList.take s.2).drop s.1) := by
  obtain ⟨o, rfl⟩ := Int.eq_ofNat_of_zero_le h
  obtain ⟨c, rfl⟩ := Int.eq_ofNat_of_zero_le (h.trans hlt.le)
  have hsize : 0 < text.toList.toArray.size := by
    rw [List.size_toArray, List.length_pos_iff]
    exact fun hnil => htext (String.toList_eq_nil_iff.mp hnil)
  have hless : o * tokenLength < c * tokenLength := by
    rw [tokenLength]
    omega
  obtain ⟨places, hplaces, hchunks⟩ := exists_places_chunksOnto hless hsize #[]
  refine ⟨c * tokenLength, o * tokenLength, places, by push_cast; rfl, by push_cast; rfl, hless,
    hplaces, ?_⟩
  rw [chunks, ← Int.natCast_mul, ← Int.natCast_mul, ← Int.natCast_zero, hchunks]
  rfl

theorem chunks_empty : chunks "" chunkSize overlapSize = [] := by
  rw [chunks, chunksOnto, if_neg (by simp)]

theorem length_le_of_mem_chunks (h : 0 ≤ overlapSize) (hlt : overlapSize < chunkSize)
    {text part : String} (hpart : part ∈ chunks text chunkSize overlapSize) :
    (part.length : Int) ≤ chunkSize * tokenLength := by
  by_cases htext : text = ""
  · rw [htext, chunks_empty] at hpart
    cases hpart
  · obtain ⟨window, overlap, places, hwindow, -, hless, hplaces, hchunks⟩ :=
      exists_places_chunks h hlt htext
    rw [hchunks] at hpart
    obtain ⟨s, hs, rfl⟩ := List.mem_map.mp hpart
    have := hplaces.bounds hless hs
    rw [String.length_ofList, List.length_drop, List.length_take]
    omega

theorem rejoin_chunks (h : 0 ≤ overlapSize) (hlt : overlapSize < chunkSize) (text : String) :
    rejoin (overlapSize * tokenLength).toNat (chunks text chunkSize overlapSize) = text := by
  by_cases htext : text = ""
  · rw [htext, chunks_empty, rejoin]
  · obtain ⟨window, overlap, places, -, hoverlap, hless, hplaces, hchunks⟩ :=
      exists_places_chunks h hlt htext
    obtain ⟨stop, rest, rfl, -, hjoin⟩ := hplaces.rejoin hless
    rw [hchunks, ← hoverlap, Int.toNat_natCast, List.map_cons, rejoin, List.flatMap_map]
    simp only [String.toList_ofList]
    rw [hjoin, List.drop_zero, String.ofList_toList]

theorem exists_chunk_holdsAt (h : 0 ≤ overlapSize) (hlt : overlapSize < chunkSize) {text : String}
    {i : Nat} (hi : i < text.length) :
    ∃ part ∈ chunks text chunkSize overlapSize, HoldsAt text part i := by
  have htext : text ≠ "" := by
    rintro rfl
    exact absurd hi (Nat.not_lt_zero i)
  obtain ⟨window, overlap, places, -, -, hless, hplaces, hchunks⟩ :=
    exists_places_chunks h hlt htext
  have hsize : text.toList.toArray.size = text.length := by
    rw [List.size_toArray, String.length_toList]
  obtain ⟨s, hs, hstart, hstop⟩ := hplaces.covers (Nat.zero_le i) (hsize ▸ hi)
  have hbounds := hplaces.bounds hless hs
  rw [hsize] at hbounds
  refine ⟨_, hchunks ▸ List.mem_map_of_mem hs, text.toList.take s.1, text.toList.drop s.2, ?_, ?_,
    ?_⟩
  · rw [String.toList_ofList, List.drop_take, ← List.append_assoc]
    have hbehind : text.toList.drop s.2 = (text.toList.drop s.1).drop (s.2 - s.1) := by
      rw [List.drop_drop, Nat.add_sub_cancel' (by omega)]
    rw [hbehind, List.append_assoc, List.take_append_drop, List.take_append_drop]
  · rw [List.length_take]
    omega
  · rw [List.length_take, String.length_ofList, List.length_drop, List.length_take,
      String.length_toList]
    omega

end

end Dissect.Summary
