import Dissect.Proofs.Summary.Account

/-!
A summary loses no text without saying so: its rounds pass on all of their text, and it tells of the
replies that were left out and of a text that was cut off.
-/

namespace Dissect.Summary

open Plan Text

theorem length_le_of_tokenCount_le {text : String} {limit : Int}
    (h : (tokenCount text : Int) ≤ limit) : (text.length : Int) ≤ limit * tokenLength := by
  rw [tokenCount, tokenLength] at h
  rw [tokenLength]
  omega

theorem toList_front {text : String} {limit : Int} (hlimit : 0 ≤ limit)
    (h : limit < tokenCount text) :
    (front text (limit * tokenLength)).toList = text.toList.take (limit * tokenLength).toNat ∧
      (limit * tokenLength).toNat < text.length := by
  have hlength : (limit * tokenLength).toNat < text.length := by
    rw [tokenCount, tokenLength] at h
    rw [tokenLength]
    omega
  refine ⟨?_, hlength⟩
  rw [front, String.toList_ofList, position, if_neg (by rw [tokenLength]; omega),
    min_eq_left hlength.le]

theorem eq_ok_of_useOf {reply : Except CallError String} {use : String}
    (h : useOf reply = some use) : reply = .ok use := by
  cases reply with
  | error e => cases h
  | ok text =>
      rw [useOf] at h
      split at h
      · obtain rfl : text = use := Option.some.inj h
        rfl
      · cases h

theorem eq_map_ok_of_length_le {replies : List (Except CallError String)}
    (h : replies.length ≤ (replies.filterMap useOf).length) :
    replies = (replies.filterMap useOf).map .ok := by
  induction replies with
  | nil => rfl
  | cons reply replies ih =>
      have hle := List.length_filterMap_le useOf replies
      cases huse : useOf reply with
      | none =>
          rw [List.filterMap_cons_none huse, List.length_cons] at h
          omega
      | some use =>
          rw [List.filterMap_cons_some huse, List.length_cons, List.length_cons] at h
          rw [List.filterMap_cons_some huse, List.map_cons, ← ih (by omega), eq_ok_of_useOf huse]

theorem Round.map_snd_eq_of_dropped {r : Round} (h : r.dropped = 0) :
    r.calls.map Prod.snd = r.usable.map .ok := by
  have husable : (r.calls.map Prod.snd).filterMap useOf = r.usable := List.filterMap_map
  rw [Round.dropped, ← husable] at h
  rw [← husable]
  refine eq_map_ok_of_length_le ?_
  rw [List.length_map]
  omega

def Rejoins (shared : Nat) : String → List Round → Prop
  | _, [] => True
  | text, r :: rounds => rejoin shared r.bodies = text ∧ Rejoins shared r.joined rounds

/-- A summary by rounds about a text and a call about `body` leaves out only what it tells. -/
structure Faithful (b : Budget) (text : String) (rounds : List Round) (body : String)
    (s : Summary) : Prop where
  rejoins : Rejoins (b.overlapSize * tokenLength).toNat text rounds
  front : body.toList <+: (textAfter text rounds).toList
  degraded : s.degraded ↔ body ≠ textAfter text rounds
  dropped : s.dropped = (rounds.map Round.dropped).sum
  complete : s.degraded = false → s.dropped = 0 →
    (∀ i < text.length, ∃ part ∈ rounds.flatMap Round.bodies ++ [body], HoldsAt text part i) ∧
      ∀ r ∈ rounds, ∃ replies : List String,
        r.calls.map Prod.snd = replies.map .ok ∧ r.joined = "\n\n".intercalate replies

section

variable {b : Budget} {text : String} {rounds : List Round} {u : List (Event Call)}

theorem Levels.rejoins (h : 0 ≤ b.overlapSize) (hlt : b.overlapSize < b.chunkSize)
    (hlevels : Levels b text rounds u) :
    Rejoins (b.overlapSize * tokenLength).toNat text rounds := by
  induction hlevels with
  | nil text => trivial
  | cons hlong hbodies hshows hrest ih =>
      refine ⟨?_, ih⟩
      rw [hbodies]
      exact rejoin_chunks h hlt _

theorem Levels.exists_holdsAt (h : 0 ≤ b.overlapSize) (hlt : b.overlapSize < b.chunkSize)
    (hlevels : Levels b text rounds u) {i : Nat} (hi : i < text.length) :
    ∃ part ∈ rounds.flatMap Round.bodies ++ [textAfter text rounds], HoldsAt text part i := by
  cases hlevels with
  | nil => exact ⟨text, by simp [textAfter], [], [], by simp, Nat.zero_le i, by simpa using hi⟩
  | cons hlong hbodies hshows hrest =>
      obtain ⟨part, hpart, hholds⟩ := exists_chunk_holdsAt h hlt hi
      rw [← hbodies] at hpart
      exact ⟨part, List.mem_append_left _ (List.mem_flatMap.mpr ⟨_, List.mem_cons_self, hpart⟩),
        hholds⟩

theorem Levels.faithful (h : 0 ≤ b.overlapSize) (hlt : b.overlapSize < b.chunkSize)
    (hlimit : 0 ≤ b.contextLimit) (hlevels : Levels b text rounds u) {left : Nat} {body : String}
    {degraded : Bool} (hclosing : Closing b left rounds (textAfter text rounds) body degraded)
    (reply : String) : Faithful b text rounds body (summaryOf rounds degraded reply) := by
  have hbody : body.toList <+: (textAfter text rounds).toList ∧
      (degraded = true ↔ body ≠ textAfter text rounds) := by
    cases hclosing with
    | whole hfits => exact ⟨List.prefix_rfl, by simp⟩
    | cutOff hlong hlevels =>
        obtain ⟨hfront, hlength⟩ := toList_front hlimit hlong
        refine ⟨hfront ▸ List.take_prefix _ _, fun _ heq => ?_, fun _ => rfl⟩
        rw [heq] at hfront
        have := congrArg List.length hfront
        rw [List.length_take, String.length_toList] at this
        omega
  refine ⟨hlevels.rejoins h hlt, hbody.1, hbody.2, rfl, fun hwhole hnone => ⟨?_, ?_⟩⟩
  · obtain rfl : body = textAfter text rounds := by
      by_contra hne
      rw [hbody.2.mpr hne] at hwhole
      cases hwhole
    exact fun i hi => hlevels.exists_holdsAt h hlt hi
  · intro r hr
    have hdropped := List.sum_eq_zero_iff_forall_eq_nat.mp hnone _ (List.mem_map_of_mem hr)
    exact ⟨r.usable, r.map_snd_eq_of_dropped hdropped, rfl⟩

end

/-- A budget of one token for a chunk and for a call, and of one level. -/
def tight : Budget := ⟨1, 0, 1, 1⟩

/-- A text of two chunks, whose replies are joined, too long again and cut off; the second chunk is
answered first. -/
theorem exists_steps_tight :
    ∃ t s, Steps (ofText true tight "p" "abcdefgh" 0) t (.done (.ok s)) ∧ s.degraded = true := by
  let r : Round := ⟨[("abcd", .ok "long"), ("efgh", .ok "text")]⟩
  have hshows : r.Shows [.begun (.ask (message partPrompt "abcd")),
      .begun (.ask (message partPrompt "efgh")),
      .answered (.ask (message partPrompt "efgh")) (.ok "text"),
      .answered (.ask (message partPrompt "abcd")) (.ok "long")] :=
    .cons (i := 0) rfl (.cons (i := 1) rfl (.cons (i := 1) rfl (.cons (i := 0) rfl
      (.nil (by simp [r, exchange])))))
  have hjoined : tight.contextLimit < tokenCount r.joined := by decide
  have hlast : Runs (afterRound true tight 0 0 "p" r.joined)
      (exchange (message (message nextLevelPrompt "p") "long") (.ok "short"))
      (.ok ⟨"short", 1, 1, 0, true⟩) := by
    have hfront : front r.joined (tight.contextLimit * tokenLength) = "long" := by decide
    rw [afterRound, if_pos hjoined, ofTextFrom_zero hjoined, hfront]
    exact runs_ofOneCall.mpr ⟨_, rfl, rfl⟩
  have hbodies : r.bodies = chunks "abcdefgh" tight.chunkSize tight.overlapSize := by
    decide +kernel
  have hrun : Runs (ofText true tight "p" "abcdefgh" 0) _ _ :=
    runs_of_round (by decide) hbodies hshows (.inr ⟨by decide, _, hlast, rfl⟩)
  exact ⟨_, _, hrun.steps, rfl⟩

/-- A run that gives a summary passes on all of its text, or tells what it leaves out. -/
theorem steps_ofText_faithful {concurrent : Bool} {b : Budget} {prompt text : String} {depth : Int}
    {t : List (Event Call)} {s : Summary} (h : 0 ≤ b.overlapSize)
    (hlt : b.overlapSize < b.chunkSize) (hlimit : 0 ≤ b.contextLimit)
    (hrun : Steps (ofText concurrent b prompt text depth) t (.done (.ok s))) :
    ∃ rounds u body, Levels b text rounds u ∧
      t = u ++ exchange (message (escalated (recursions b rounds) prompt) body) (.ok s.text) ∧
      Faithful b text rounds body s := by
  obtain ⟨rounds, u, v, hlevels, rfl, -, hend⟩ := exists_levels_of_runs (steps_done_iff.mp hrun)
  obtain ⟨body, degraded, reply, hclosing, rfl, rfl⟩ := exists_of_concludes_ok hend
  exact ⟨rounds, u, body, hlevels, rfl, hlevels.faithful h hlt hlimit hclosing reply⟩

theorem steps_tight_faithful :
    ∃ t s, Steps (ofText true tight "p" "abcdefgh" 0) t (.done (.ok s)) ∧ s.degraded = true ∧
      ∃ rounds u body, Levels tight "abcdefgh" rounds u ∧
        t = u ++ exchange (message (escalated (recursions tight rounds) "p") body) (.ok s.text) ∧
        Faithful tight "abcdefgh" rounds body s := by
  obtain ⟨t, s, hrun, hdegraded⟩ := exists_steps_tight
  have hsizes : 0 ≤ tight.overlapSize ∧ tight.overlapSize < tight.chunkSize ∧
      0 ≤ tight.contextLimit := by decide
  exact ⟨t, s, hrun, hdegraded, steps_ofText_faithful hsizes.1 hsizes.2.1 hsizes.2.2 hrun⟩

end Dissect.Summary
