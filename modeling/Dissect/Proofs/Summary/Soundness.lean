import Dissect.Proofs.Summary.Bounds
import Dissect.Proofs.Summary.Overlap

namespace Dissect.Summary

open Plan Text

/-- The parts stand at places of a text that leave no character out. -/
def Covers (parts : List String) (text : String) : Prop :=
  ∃ places : List (Nat × Nat),
    parts = places.map (fun s => String.ofList ((text.toList.take s.2).drop s.1)) ∧
      ∀ i < text.length, ∃ s ∈ places, s.1 ≤ i ∧ i < s.2

def CoversEach : String → List Round → Prop
  | _, [] => True
  | text, r :: rounds => Covers r.bodies text ∧ CoversEach r.joined rounds

/-- A summary shows the events `u` of rounds and then the events `v` of its end. -/
structure Course (b : Budget) (depth : Int) (prompt text : String) (rounds : List Round)
    (u v : List (Event Call)) : Prop where
  levels : Levels b text rounds u
  length_le : rounds.length ≤ (b.recursionLimit - depth).toNat
  ends : ∃ result, GivesUp depth rounds v result ∨
    Concludes b (b.recursionLimit - depth).toNat prompt text rounds v result

/-- No text of a call has more tokens than the limit on calls allows, and no round leaves a
character out. -/
structure SoundCourse (b : Budget) (prompt text : String) (rounds : List Round)
    (v : List (Event Call)) : Prop where
  segments : ∀ r ∈ rounds, ∀ body ∈ r.bodies, (tokenCount body : Int) ≤ b.contextLimit
  last : ∀ body reply,
    v = exchange (message (escalated (recursions b rounds) prompt) body) reply →
      (tokenCount body : Int) ≤ b.contextLimit
  covers : CoversEach text rounds

/-- Whatever a summary that stands at level `depth` has shown is the beginning of a sound course. -/
def Budget.IsSound (b : Budget) (depth : Int) : Prop :=
  ∀ concurrent prompt text t p, Steps (ofText concurrent b prompt text depth) t p →
    ∃ rounds u v, t <+: u ++ v ∧ Course b depth prompt text rounds u v ∧
      SoundCourse b prompt text rounds v

theorem Budget.sizes_of_check {b : Budget} (h : b.check = .ok b) : b.overlapSize < b.chunkSize := by
  rw [Budget.check] at h
  split at h
  · cases h
  · rename_i hsizes
    exact not_le.mp hsizes

theorem message_injective (prompt : String) : Function.Injective (message prompt) := by
  intro text text' h
  rw [message, message, String.append_right_inj] at h
  exact h

section

variable {b : Budget} {depth : Int} {prompt text : String} {rounds : List Round}
  {u v : List (Event Call)}

theorem exists_course_of_steps {concurrent : Bool} {t : List (Event Call)}
    {p : Plan Call (Except CallError Summary)}
    (h : Steps (ofText concurrent b prompt text depth) t p) :
    ∃ rounds u v, t <+: u ++ v ∧ Course b depth prompt text rounds u v := by
  obtain ⟨t', result, hrun⟩ := h.exists_runs nonempty_answer
  obtain ⟨rounds, u, v, hlevels, heq, hlength, hend⟩ := exists_levels_of_runs hrun
  exact ⟨rounds, u, v, ⟨t', heq⟩, hlevels, hlength, result, hend⟩

theorem covers_chunks {chunkSize overlapSize : Int} (h : 0 ≤ overlapSize)
    (hlt : overlapSize < chunkSize) (text : String) :
    Covers (chunks text chunkSize overlapSize) text := by
  by_cases htext : text = ""
  · subst htext
    refine ⟨[], chunks_empty, ?_⟩
    intro i hi
    exact absurd hi (Nat.not_lt_zero i)
  · obtain ⟨window, overlap, places, -, -, hless, hplaces, hchunks⟩ :=
      exists_places_chunks h hlt htext
    refine ⟨places, hchunks, ?_⟩
    intro i hi
    apply hplaces.covers (Nat.zero_le i)
    rwa [List.size_toArray, String.length_toList]

theorem Levels.tokenCount_le (h : 0 ≤ b.overlapSize) (hlt : b.overlapSize < b.chunkSize)
    (hsize : b.chunkSize ≤ b.contextLimit) (hlevels : Levels b text rounds u) :
    ∀ r ∈ rounds, ∀ body ∈ r.bodies, (tokenCount body : Int) ≤ b.contextLimit := by
  induction hlevels with
  | nil text => simp
  | cons hlong hbodies hshows hrest ih =>
      refine List.forall_mem_cons.mpr ⟨?_, ih⟩
      intro body hbody
      rw [hbodies] at hbody
      exact (tokenCount_le_of_length_le (length_le_of_mem_chunks h hlt hbody)).trans hsize

theorem Levels.coversEach (h : 0 ≤ b.overlapSize) (hlt : b.overlapSize < b.chunkSize)
    (hlevels : Levels b text rounds u) : CoversEach text rounds := by
  induction hlevels with
  | nil text => trivial
  | cons hlong hbodies hshows hrest ih =>
      refine ⟨?_, ih⟩
      rw [hbodies]
      exact covers_chunks h hlt _

theorem Course.last_le (hlimit : 0 ≤ b.contextLimit)
    (hcourse : Course b depth prompt text rounds u v) (body : String)
    (reply : Except CallError String)
    (hlast : v = exchange (message (escalated (recursions b rounds) prompt) body) reply) :
    (tokenCount body : Int) ≤ b.contextLimit := by
  obtain ⟨result, ⟨-, -, -, -, rfl, -⟩ | ⟨-, body', degraded, reply', hclosing, rfl, -⟩⟩ :=
    hcourse.ends
  · cases hlast
  · have hsent := congrArg sent hlast
    rw [sent_exchange, sent_exchange, List.singleton_inj] at hsent
    rw [← message_injective _ hsent]
    exact tokenCount_le_of_length_le (hclosing.length_le hlimit)

theorem Course.sound (hlimit : 0 ≤ b.contextLimit) (hlt : b.overlapSize < b.chunkSize)
    (hsizes : depth < b.recursionLimit → 0 ≤ b.overlapSize ∧ b.chunkSize ≤ b.contextLimit)
    (hcourse : Course b depth prompt text rounds u v) :
    SoundCourse b prompt text rounds v := by
  have hlast := hcourse.last_le hlimit
  rcases le_or_gt b.recursionLimit depth with hnone | hsome
  · have hlength := hcourse.length_le
    rw [Int.toNat_of_nonpos (by omega), Nat.le_zero, List.length_eq_zero_iff] at hlength
    subst hlength
    exact ⟨by simp, hlast, trivial⟩
  · obtain ⟨hoverlap, hsize⟩ := hsizes hsome
    exact ⟨hcourse.levels.tokenCount_le hoverlap hlt hsize, hlast,
      hcourse.levels.coversEach hoverlap hlt⟩

theorem Course.exists_round (hlong : b.contextLimit < tokenCount text)
    (hdepth : depth < b.recursionLimit) (hcourse : Course b depth prompt text rounds u v) :
    ∃ r rest, rounds = r :: rest ∧ r.bodies = chunks text b.chunkSize b.overlapSize := by
  cases hcourse.levels with
  | cons _ hbodies _ _ => exact ⟨_, _, rfl, hbodies⟩
  | nil =>
      obtain ⟨result, ⟨before, last, hnil, -⟩ | ⟨-, body, degraded, reply, hclosing, -⟩⟩ :=
        hcourse.ends
      · simp at hnil
      · cases hclosing with
        | whole hfits => exact absurd hfits (not_le.mpr hlong)
        | cutOff _ hlength =>
            rw [List.length_nil] at hlength
            omega

/-- A sound budget cuts a text that is too long into chunks that are not, and that leave nothing
out. -/
theorem Budget.IsSound.sound_chunks (h : b.IsSound depth) (hdepth : depth < b.recursionLimit)
    (text : String) (hlong : b.contextLimit < tokenCount text) :
    (∀ body ∈ chunks text b.chunkSize b.overlapSize, (tokenCount body : Int) ≤ b.contextLimit) ∧
      Covers (chunks text b.chunkSize b.overlapSize) text := by
  obtain ⟨rounds, u, v, -, hcourse, hsound⟩ := h true "" text [] _ (.refl _)
  obtain ⟨r, rest, rfl, hbodies⟩ := hcourse.exists_round hlong hdepth
  rw [← hbodies]
  exact ⟨hsound.segments r List.mem_cons_self, hsound.covers.1⟩

end

/-- No boundary begins with a character of the text. -/
def HasNoBoundary (text : Array Char) : Prop :=
  ∀ pattern ∈ boundaries, ∀ c ∈ pattern.head?, c ∉ text

section

variable {text : Array Char}

theorem standsAt_eq_false {c : Char} {rest : List Char} (h : c ∉ text) (i : Nat) :
    standsAt text (c :: rest) i = false := by
  have hne : text[i]? ≠ some c := by
    intro heq
    exact h (Array.mem_of_getElem? heq)
  rw [standsAt, beq_false_of_ne hne, Bool.false_and]

theorem lastOf_eq_none {c : Char} {rest : List Char} (h : c ∉ text) (low count : Nat) :
    lastOf text (c :: rest) low count = none := by
  induction count with
  | zero => rfl
  | succ count ih => rw [lastOf, standsAt_eq_false h, if_neg Bool.false_ne_true, ih]

theorem chunkEnd_eq_stop (h : HasNoBoundary text) (start stop overlap : Int) :
    chunkEnd text start stop overlap = stop := by
  have hnone : (boundaries.findSome? fun b =>
      (lastBetween text b (start + max ((stop - start).fdiv 2) (overlap + 1)) stop).map
        fun i : Nat => (i + b.length : Int)) = none := by
    rw [List.findSome?_eq_none_iff]
    intro b hb
    have hne : ∀ b ∈ boundaries, b ≠ [] := by decide
    obtain ⟨c, rest, rfl⟩ := List.exists_cons_of_ne_nil (hne b hb)
    rw [lastBetween, lastOf_eq_none (h _ hb c rfl), Option.map_none]
  rw [chunkEnd, hnone, Option.getD_none]

theorem chunksOnto_eq (h : HasNoBoundary text) {window overlap start : Int}
    (hstart : start < text.size) (found : Array String) :
    chunksOnto text window overlap found start =
      if text.size ≤ start + window then
        found.push (String.ofList (between text start text.size))
      else chunksOnto text window overlap
        (found.push (String.ofList (between text start (start + window))))
        (max (start + window - overlap) (start + 1)) := by
  rw [chunksOnto, if_pos hstart]
  dsimp only
  rcases le_or_gt (text.size : Int) (start + window) with hlast | hmore
  · rw [min_eq_right hlast, if_neg (lt_irrefl _), if_pos le_rfl, if_pos hlast]
  · rw [min_eq_left hmore.le, if_pos hmore, chunkEnd_eq_stop h, if_neg (not_le.mpr hmore),
      if_neg (not_le.mpr hmore)]

theorem mem_drop_of_mem_between {start stop : Int} {c : Char} (h : 0 ≤ start)
    (hc : c ∈ between text start stop) : c ∈ text.toList.drop start.toNat := by
  rw [between, position, if_neg (not_lt.mpr h), Array.toList_extract, List.extract_eq_take_drop,
    ← List.drop_take] at hc
  have hbehind := (List.take_sublist _ _).drop (min start.toNat text.size) |>.subset hc
  rcases le_total start.toNat text.size with hle | hle
  · rwa [min_eq_left hle] at hbehind
  · rw [min_eq_right hle, List.drop_eq_nil_of_le (by rw [Array.length_toList])] at hbehind
    cases hbehind

theorem mem_drop_of_mem_chunksOnto {window overlap start : Int} {found : Array String}
    {part : String} {c : Char} (h : 0 ≤ start) (hc : c ∈ part.toList)
    (hpart : part ∈ chunksOnto text window overlap found start) :
    part ∈ found ∨ c ∈ text.toList.drop start.toNat := by
  have hpush : ∀ {found : Array String} {start stop : Int}, 0 ≤ start →
      part ∈ found.push (String.ofList (between text start stop)) →
      part ∈ found ∨ c ∈ text.toList.drop start.toNat := by
    intro found start stop h hpart
    rcases Array.mem_push.mp hpart with hfound | rfl
    · exact .inl hfound
    · rw [String.toList_ofList] at hc
      exact .inr (mem_drop_of_mem_between h hc)
  fun_induction chunksOnto text window overlap found start with
  | case1 found start hstart limit stop found' hlast => exact hpush h hpart
  | case2 found start hstart limit stop found' hmore ih =>
      rcases ih (by omega) hpart with hfound | hbehind
      · exact hpush h hfound
      · right
        have hle : start.toNat ≤ (max (stop - overlap) (start + 1)).toNat := by omega
        exact (List.drop_subset_drop_left _ hle) hbehind
  | case3 found start hend => exact .inl hpart

theorem between_zero_neg {stop : Int} (h : stop < 0) :
    between text 0 stop = text.toList.take (stop + text.size).toNat := by
  rw [between, position, position, if_neg (lt_irrefl _), if_pos h, Int.toNat_zero, Nat.zero_min,
    Array.toList_extract, List.extract_eq_take_drop, List.drop_zero, Nat.sub_zero]

theorem mem_chunksOnto_of_mem {window overlap start : Int} {found : Array String} {part : String}
    (hpart : part ∈ found) : part ∈ chunksOnto text window overlap found start := by
  fun_induction chunksOnto text window overlap found start with
  | case1 found start hstart limit stop found' hlast => exact Array.mem_push_of_mem _ hpart
  | case2 found start hstart limit stop found' hmore ih => exact ih (Array.mem_push_of_mem _ hpart)
  | case3 found start hend => exact hpart

theorem hasNoBoundary_of_letters (h : ∀ c ∈ text, c = 'a' ∨ c = 'b') : HasNoBoundary text := by
  have hletters : ∀ pattern ∈ boundaries, pattern.head? ≠ some 'a' ∧ pattern.head? ≠ some 'b' := by
    decide
  intro pattern hpattern c hc hmem
  obtain ⟨ha, hb⟩ := hletters pattern hpattern
  rcases h c hmem with rfl | rfl
  · exact ha hc
  · exact hb hc

theorem hasNoBoundary_replicate (n : Nat) : HasNoBoundary (List.replicate n 'a').toArray := by
  apply hasNoBoundary_of_letters
  intro c hc
  exact .inl (List.eq_of_mem_replicate (List.mem_toArray.mp hc))

def oddOneOut (before after : Nat) : List Char :=
  List.replicate before 'a' ++ 'b' :: List.replicate after 'a'

theorem length_oddOneOut (before after : Nat) :
    (oddOneOut before after).length = before + (after + 1) := by
  rw [oddOneOut, List.length_append, List.length_cons, List.length_replicate, List.length_replicate]

theorem mem_oddOneOut (before after : Nat) : 'b' ∈ oddOneOut before after :=
  List.mem_append_right _ List.mem_cons_self

theorem hasNoBoundary_oddOneOut (before after : Nat) :
    HasNoBoundary (oddOneOut before after).toArray := by
  apply hasNoBoundary_of_letters
  intro c hc
  rw [List.mem_toArray, oddOneOut, List.mem_append, List.mem_cons] at hc
  rcases hc with hc | rfl | hc
  · exact .inl (List.eq_of_mem_replicate hc)
  · exact .inr rfl
  · exact .inl (List.eq_of_mem_replicate hc)

theorem not_mem_take_oddOneOut (before after : Nat) :
    'b' ∉ (oddOneOut before after).take before := by
  rw [oddOneOut, List.take_left' List.length_replicate]
  intro hmem
  exact absurd (List.eq_of_mem_replicate hmem) (by decide)

theorem not_mem_drop_oddOneOut {before start : Nat} (after : Nat) (h : before < start) :
    'b' ∉ (oddOneOut before after).drop start := by
  obtain ⟨k, rfl⟩ := Nat.exists_eq_add_of_lt h
  rw [oddOneOut, Nat.add_assoc, List.drop_append, List.length_replicate, Nat.add_sub_cancel_left,
    List.drop_succ_cons, List.drop_replicate, List.drop_replicate]
  intro hmem
  rcases List.mem_append.mp hmem with hmem | hmem
  · exact absurd (List.eq_of_mem_replicate hmem) (by decide)
  · exact absurd (List.eq_of_mem_replicate hmem) (by decide)

/-- With a negative overlap, a letter right behind the first chunk is left out. -/
theorem not_mem_of_mem_chunks {overlapSize : Int} (h : overlapSize < 0) {size after : Nat}
    {part : String} (hpart : part ∈
      chunks (String.ofList (oddOneOut (size * tokenLength) after)) size overlapSize) :
    'b' ∉ part.toList := by
  have hsize : (oddOneOut (size * tokenLength) after).toArray.size
      = size * tokenLength + (after + 1) := by
    rw [List.size_toArray, length_oddOneOut]
  rw [chunks, String.toList_ofList, chunksOnto_eq (hasNoBoundary_oddOneOut _ _) (by omega), if_neg,
    Array.mem_toList_iff] at hpart
  · intro hmem
    rcases mem_drop_of_mem_chunksOnto (by omega) hmem hpart with hfirst | hbehind
    · rw [List.push_toArray, List.nil_append, List.mem_toArray, List.mem_singleton] at hfirst
      rw [hfirst, String.toList_ofList, zero_add, ← Nat.cast_zero, ← Nat.cast_mul,
        toList_between _ (by omega), List.drop_zero] at hmem
      exact not_mem_take_oddOneOut _ _ hmem
    · refine not_mem_drop_oddOneOut after ?_ hbehind
      rw [tokenLength]
      omega
  · rw [hsize, tokenLength]
    omega

end

theorem Covers.exists_mem {parts : List String} {text : String} (h : Covers parts text) {c : Char}
    (hc : c ∈ text.toList) : ∃ part ∈ parts, c ∈ part.toList := by
  obtain ⟨places, rfl, hcovers⟩ := h
  obtain ⟨i, hi, rfl⟩ := List.mem_iff_getElem.mp hc
  obtain ⟨s, hs, hstart, hstop⟩ := hcovers i (by rwa [← String.length_toList])
  refine ⟨_, List.mem_map_of_mem hs, ?_⟩
  rw [String.toList_ofList, List.mem_iff_getElem?]
  refine ⟨i - s.1, ?_⟩
  rw [List.getElem?_drop, Nat.add_sub_cancel' hstart, List.getElem?_take_of_lt hstop,
    List.getElem?_eq_getElem hi]

theorem tokenCount_replicate (n : Nat) (c : Char) :
    tokenCount (String.ofList (List.replicate (n * tokenLength) c)) = n := by
  rw [tokenCount, String.length_ofList, List.length_replicate, tokenLength]
  omega

namespace Budget.IsSound

variable {b : Budget} {depth : Int}

theorem contextLimit_nonneg (h : b.IsSound depth) : 0 ≤ b.contextLimit := by
  rcases le_or_gt b.recursionLimit depth with hnone | hsome
  · obtain ⟨rounds, u, v, -, hcourse, hsound⟩ := h true "" "" [] _ (.refl _)
    have hlength := hcourse.length_le
    rw [Int.toNat_of_nonpos (by omega), Nat.le_zero, List.length_eq_zero_iff] at hlength
    subst hlength
    obtain ⟨result, ⟨before, last, hnil, -⟩ | ⟨-, body, degraded, reply, -, rfl, -⟩⟩ :=
      hcourse.ends
    · simp at hnil
    · have hlast := hsound.last body reply rfl
      omega
  · by_contra hneg
    obtain ⟨hfits, hcovers⟩ := h.sound_chunks hsome "a" (by omega)
    obtain ⟨part, hpart, -⟩ := hcovers.exists_mem (c := 'a') (by decide)
    have htokens := hfits part hpart
    omega

theorem chunkSize_le (h : b.IsSound depth) (hdepth : depth < b.recursionLimit) :
    b.chunkSize ≤ b.contextLimit := by
  have hlimit := h.contextLimit_nonneg
  by_contra hlarge
  obtain ⟨n, hn⟩ := Int.eq_ofNat_of_zero_le (a := b.chunkSize) (by omega)
  let letters := List.replicate (n * tokenLength) 'a'
  have hcount : tokenCount (String.ofList letters) = n := tokenCount_replicate n 'a'
  have hsize : letters.toArray.size = n * tokenLength := by
    rw [List.size_toArray, List.length_replicate]
  obtain ⟨hfits, -⟩ := h.sound_chunks hdepth (String.ofList letters) (by omega)
  have hpart : String.ofList letters ∈
      chunks (String.ofList letters) b.chunkSize b.overlapSize := by
    rw [chunks, String.toList_ofList, hn, chunksOnto_eq (hasNoBoundary_replicate _),
      if_pos, ← Nat.cast_zero, toList_between _ le_rfl, ← Array.length_toList, List.take_length,
      List.drop_zero, Array.mem_toList_iff]
    · exact Array.mem_push_self
    · rw [hsize]
      push_cast
      omega
    · rw [hsize, tokenLength]
      omega
  have htokens := hfits _ hpart
  omega

/-- With chunks of a negative size, a first chunk goes up to that many tokens before the end. -/
theorem chunkSize_nonneg (h : b.IsSound depth) (hdepth : depth < b.recursionLimit) :
    0 ≤ b.chunkSize := by
  have hlimit := h.contextLimit_nonneg
  by_contra hneg
  obtain ⟨k, hk⟩ := Int.eq_ofNat_of_zero_le hlimit
  obtain ⟨d, hd⟩ := Int.eq_ofNat_of_zero_le (a := -b.chunkSize) (by omega)
  let letters := List.replicate ((k + 1 + d) * tokenLength) 'a'
  have hcount : tokenCount (String.ofList letters) = k + 1 + d := tokenCount_replicate _ 'a'
  have hsize : letters.toArray.size = (k + 1 + d) * tokenLength := by
    rw [List.size_toArray, List.length_replicate]
  obtain ⟨hfits, -⟩ := h.sound_chunks hdepth (String.ofList letters) (by omega)
  have hfirst : between letters.toArray 0 (0 + b.chunkSize * tokenLength)
      = List.replicate ((k + 1) * tokenLength) 'a' := by
    rw [between_zero_neg (by rw [tokenLength]; omega), List.take_replicate, hsize, tokenLength]
    congr 1
    omega
  have hpart : String.ofList (List.replicate ((k + 1) * tokenLength) 'a') ∈
      chunks (String.ofList letters) b.chunkSize b.overlapSize := by
    rw [chunks, String.toList_ofList, chunksOnto_eq (hasNoBoundary_replicate _),
      if_neg, Array.mem_toList_iff]
    · apply mem_chunksOnto_of_mem
      rw [hfirst]
      exact Array.mem_push_self
    · rw [hsize, tokenLength]
      omega
    · rw [hsize, tokenLength]
      omega
  have htokens := hfits _ hpart
  rw [tokenCount_replicate] at htokens
  omega

theorem overlapSize_nonneg (h : b.IsSound depth) (hdepth : depth < b.recursionLimit) :
    0 ≤ b.overlapSize := by
  obtain ⟨size, hsize⟩ := Int.eq_ofNat_of_zero_le (h.chunkSize_nonneg hdepth)
  obtain ⟨k, hk⟩ := Int.eq_ofNat_of_zero_le h.contextLimit_nonneg
  by_contra hneg
  let letters := oddOneOut (size * tokenLength) (k * tokenLength)
  have hlong : b.contextLimit < tokenCount (String.ofList letters) := by
    rw [tokenCount, String.length_ofList, length_oddOneOut, tokenLength]
    omega
  obtain ⟨-, hcovers⟩ := h.sound_chunks hdepth (String.ofList letters) hlong
  have hmem : 'b' ∈ (String.ofList letters).toList := by
    rw [String.toList_ofList]
    exact mem_oddOneOut _ _
  obtain ⟨part, hpart, hheld⟩ := hcovers.exists_mem hmem
  rw [hsize] at hpart
  exact not_mem_of_mem_chunks (not_le.mp hneg) hpart hheld

end Budget.IsSound

/-- Which of the accepted budgets are sound: none with a negative limit on calls and, where there is
a level to go, none with chunks that leave a gap between them or do not fit a call. -/
theorem Budget.isSound_iff {b : Budget} (h : b.check = .ok b) (depth : Int) :
    b.IsSound depth ↔ 0 ≤ b.contextLimit ∧
      (depth < b.recursionLimit → 0 ≤ b.overlapSize ∧ b.chunkSize ≤ b.contextLimit) := by
  constructor
  · intro hsound
    refine ⟨hsound.contextLimit_nonneg, ?_⟩
    intro hdepth
    exact ⟨hsound.overlapSize_nonneg hdepth, hsound.chunkSize_le hdepth⟩
  · rintro ⟨hlimit, hsizes⟩ concurrent prompt text t p hsteps
    obtain ⟨rounds, u, v, hfront, hcourse⟩ := exists_course_of_steps hsteps
    exact ⟨rounds, u, v, hfront, hcourse, hcourse.sound hlimit (Budget.sizes_of_check h) hsizes⟩

theorem Budget.standard_isSound :
    Budget.standard.check = .ok Budget.standard ∧ Budget.standard.IsSound 0 :=
  ⟨rfl, (Budget.isSound_iff rfl 0).mpr ⟨by decide, fun _ => by decide⟩⟩

/-- Chunks that are larger than a call may be, and chunks with a gap between them. -/
theorem Budget.exists_check_ok_not_isSound :
    (Budget.check ⟨2, 0, 1, 1⟩ = .ok ⟨2, 0, 1, 1⟩ ∧ ¬ Budget.IsSound ⟨2, 0, 1, 1⟩ 0) ∧
      Budget.check ⟨1, -1, 1, 2⟩ = .ok ⟨1, -1, 1, 2⟩ ∧ ¬ Budget.IsSound ⟨1, -1, 1, 2⟩ 0 := by
  refine ⟨⟨rfl, ?_⟩, rfl, ?_⟩
  · intro h
    exact absurd (h.chunkSize_le (by decide)) (by decide)
  · intro h
    exact absurd (h.overlapSize_nonneg (by decide)) (by decide)

end Dissect.Summary
