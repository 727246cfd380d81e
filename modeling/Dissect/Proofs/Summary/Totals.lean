import Dissect.Proofs.Summary.Bounds

namespace Dissect.Summary

open Plan Text

/-- The call failed, or its reply is blank or without a recognisable text. -/
def isLost : Except CallError String → Bool
  | .error _ => true
  | .ok reply => blank reply || reply == noTextReply

def losses (t : List (Event Call)) : Nat :=
  t.countP fun
    | .answered (.ask _) reply => isLost reply
    | _ => false

/-- Every call of the round came to nothing. -/
def Round.Fails (r : Round) : Prop := ∀ c ∈ r.calls, isLost c.2 = true

/-- The totals of a summary by rounds that show `u` and a last call that shows `v`. -/
structure Totals (rounds : List Round) (u v : List (Event Call)) (s : Summary) : Prop where
  calls : s.calls = (sent (u ++ v)).length
  dropped : s.dropped = losses u
  levels : s.levels = rounds.length + 1
  chunks : s.calls = (rounds.map (·.bodies.length)).sum + 1

/-- The result of a run of rounds that show `u` and of what shows `v` after them: a summary tells the
totals, and there is none exactly if a round fails, the last one then, or the call after them. -/
structure Accounted (rounds : List Round) (u v : List (Event Call))
    (result : Except CallError Summary) : Prop where
  totals : ∀ s, result = .ok s → Totals rounds u v s
  last : v = [] ∨ ∃ m reply, v = exchange m reply
  stops : ∀ front r back, rounds = front ++ r :: back → r.Fails → back = [] ∧ v = []
  fails : (∃ e, result = .error e) ↔ (∃ r ∈ rounds, r.Fails) ∨ ∃ m e, v = exchange m (.error e)

theorem isLost_eq_isNone (reply : Except CallError String) :
    isLost reply = (useOf reply).isNone := by
  cases reply with
  | error e => rfl
  | ok text =>
      rw [isLost, useOf, isUsable]
      cases blank text <;> cases htext : text == noTextReply <;> simp [bne, htext]

section

variable {r : Round} {t : List (Event Call)}

theorem Round.fails_iff : r.Fails ↔ r.usable = [] := by
  simp only [Fails, usable, List.filterMap_eq_nil_iff, isLost_eq_isNone, Option.isNone_iff_eq_none]

theorem Round.dropped_eq_countP : r.dropped = r.calls.countP fun c => isLost c.2 := by
  have husable : r.usable.length = r.calls.countP fun c => (useOf c.2).isSome :=
    List.length_filterMap_eq_countP
  have hsplit := List.length_eq_countP_add_countP (l := r.calls) fun c => (useOf c.2).isSome
  have hlost : (r.calls.countP fun c => isLost c.2)
      = r.calls.countP fun c => ¬ (useOf c.2).isSome := by
    simp only [isLost_eq_isNone, Bool.not_eq_true, Option.isSome_eq_false_iff, Bool.decide_eq_true]
  rw [dropped, husable, hlost]
  omega

theorem losses_exchange (m : String) (reply : Except CallError String) :
    losses (exchange m reply) = if isLost reply then 1 else 0 := by
  simp [losses, exchange, List.countP_cons]

theorem losses_append (t u : List (Event Call)) : losses (t ++ u) = losses t + losses u :=
  List.countP_append

def Round.inTurn (r : Round) : List (Event Call) :=
  (r.calls.map fun c => exchange (message partPrompt c.1) c.2).flatten

theorem Round.Shows.perm (h : r.Shows t) : t.Perm r.inTurn := Woven.perm h

theorem Round.sent_inTurn (r : Round) : sent r.inTurn = r.bodies.map (message partPrompt) := by
  obtain ⟨calls⟩ := r
  simp only [inTurn, bodies]
  induction calls with
  | nil => rfl
  | cons c calls ih =>
      rw [List.map_cons, List.flatten_cons, sent_append, sent_exchange, ih, List.singleton_append]
      rfl

theorem Round.losses_inTurn (r : Round) : losses r.inTurn = r.dropped := by
  rw [dropped_eq_countP]
  obtain ⟨calls⟩ := r
  simp only [inTurn]
  induction calls with
  | nil => rfl
  | cons c calls ih =>
      rw [List.map_cons, List.flatten_cons, losses_append, losses_exchange, ih, List.countP_cons,
        Nat.add_comm]

theorem Round.Shows.length_sent (h : r.Shows t) : (sent t).length = r.bodies.length := by
  have hperm : (sent t).Perm (sent r.inTurn) := h.perm.filterMap _
  rw [hperm.length_eq, sent_inTurn, List.length_map]

theorem Round.Shows.losses_eq (h : r.Shows t) : losses t = r.dropped := by
  rw [losses, h.perm.countP_eq, ← losses, losses_inTurn]

end

section

variable {b : Budget} {text : String} {rounds : List Round} {u : List (Event Call)}

theorem Levels.length_sent (h : Levels b text rounds u) :
    (sent u).length = (rounds.map (·.bodies.length)).sum := by
  induction h with
  | nil text => rfl
  | cons hlong hbodies hshows hrest ih =>
      rw [sent_append, List.length_append, ih, hshows.length_sent, List.map_cons,
        List.sum_cons]

theorem Levels.losses_eq (h : Levels b text rounds u) :
    losses u = (rounds.map Round.dropped).sum := by
  induction h with
  | nil text => rfl
  | cons hlong hbodies hshows hrest ih =>
      rw [losses_append, ih, hshows.losses_eq, List.map_cons, List.sum_cons]

/-- A round after which there is another one has a reply of use. -/
theorem Levels.usable_ne_nil (hlimit : 0 ≤ b.contextLimit) {front back : List Round} {r : Round}
    (hback : back ≠ []) (h : Levels b text (front ++ r :: back) u) : r.usable ≠ [] := by
  induction front generalizing text u with
  | nil =>
      intro hnone
      cases h with
      | cons _ _ _ hrest =>
          cases hrest with
          | nil => exact hback rfl
          | cons hlong _ _ _ =>
              have hjoined : tokenCount r.joined = 0 := by
                rw [Round.joined, hnone]
                rfl
              omega
  | cons first front ih =>
      cases h with
      | cons _ _ _ hrest => exact ih hrest

theorem Levels.totals (h : Levels b text rounds u) {m reply : String} {degraded : Bool} :
    Totals rounds u (exchange m (.ok reply)) (summaryOf rounds degraded reply) := by
  have hbodies : (rounds.map (·.calls.length)) = rounds.map (·.bodies.length) :=
    List.map_congr_left fun r _ => (List.length_map _).symm
  refine ⟨?_, h.losses_eq.symm, rfl, ?_⟩
  · rw [sent_append, List.length_append, h.length_sent, ← hbodies]
    rfl
  · rw [← hbodies]
    rfl

theorem GivesUp.accounted {depth : Int} {v : List (Event Call)}
    {result : Except CallError Summary} (hlimit : 0 ≤ b.contextLimit)
    (hlevels : Levels b text rounds u) (h : GivesUp depth rounds v result) :
    Accounted rounds u v result := by
  obtain ⟨front, r, rfl, hnone, rfl, rfl⟩ := h
  refine ⟨?_, .inl rfl, ?_, ?_⟩
  · intro s hs
    cases hs
  · intro before r' back heq hfails
    refine ⟨?_, rfl⟩
    by_contra hback
    rw [heq] at hlevels
    exact hlevels.usable_ne_nil hlimit hback (Round.fails_iff.mp hfails)
  · constructor
    · intro _
      exact .inl ⟨r, by simp, Round.fails_iff.mpr hnone⟩
    · intro _
      exact ⟨_, rfl⟩

theorem Concludes.accounted {left : Nat} {prompt : String} {v : List (Event Call)}
    {result : Except CallError Summary} (hlevels : Levels b text rounds u)
    (h : Concludes b left prompt text rounds v result) : Accounted rounds u v result := by
  obtain ⟨husable, body, degraded, reply, -, rfl, rfl⟩ := h
  have hnone : ∀ r ∈ rounds, ¬ r.Fails :=
    fun r hr hfails => husable r hr (Round.fails_iff.mp hfails)
  refine ⟨?_, .inr ⟨_, _, rfl⟩, ?_, ?_⟩
  · intro s hs
    cases reply with
    | error e => cases hs
    | ok reply =>
        obtain rfl := Except.ok.inj hs
        exact hlevels.totals
  · rintro front r back rfl hfails
    exact absurd hfails (hnone r (by simp))
  · constructor
    · rintro ⟨e, he⟩
      cases reply with
      | error e' => exact .inr ⟨_, e', rfl⟩
      | ok reply => cases he
    · rintro (⟨r, hr, hfails⟩ | ⟨m, e, heq⟩)
      · exact absurd hfails (hnone r hr)
      · simp only [exchange, List.cons.injEq] at heq
        cases heq.2.1
        exact ⟨e, rfl⟩

end

/-- Every run of a summary is told by its result. -/
theorem ofText_accounted {concurrent : Bool} {b : Budget} {prompt text : String} {depth : Int}
    {t : List (Event Call)} {result : Except CallError Summary} (hlimit : 0 ≤ b.contextLimit)
    (hrun : Steps (ofText concurrent b prompt text depth) t (.done result)) :
    ∃ rounds u v, Levels b text rounds u ∧ t = u ++ v ∧ Accounted rounds u v result := by
  obtain ⟨rounds, u, v, hlevels, rfl, -, hend⟩ := exists_levels_of_runs (steps_done_iff.mp hrun)
  refine ⟨rounds, u, v, hlevels, rfl, ?_⟩
  rcases hend with hfailed | hdone
  · exact hfailed.accounted hlimit hlevels
  · exact hdone.accounted hlevels

theorem exists_steps_tight_dropped :
    ∃ t s, Steps (ofText true tight "p" "abcdefgh" 0) t (.done (.ok s)) ∧ s.dropped = 1 := by
  let r : Round := ⟨[("abcd", .error ⟨"down", none⟩), ("efgh", .ok "text")]⟩
  have hshows : r.Shows [.begun (.ask (message partPrompt "abcd")),
      .begun (.ask (message partPrompt "efgh")),
      .answered (.ask (message partPrompt "efgh")) (.ok "text"),
      .answered (.ask (message partPrompt "abcd")) (.error ⟨"down", none⟩)] :=
    .cons (i := 0) rfl (.cons (i := 1) rfl (.cons (i := 1) rfl (.cons (i := 0) rfl
      (.nil (by simp [r, exchange])))))
  have hlast : Runs (afterRound true tight 0 0 "p" r.joined)
      (exchange (message "p" "text") (.ok "short")) (.ok ⟨"short", 1, 1, 0, false⟩) := by
    rw [afterRound, if_neg (by decide)]
    exact runs_ofOneCall.mpr ⟨_, rfl, rfl⟩
  have hbodies : r.bodies = chunks "abcdefgh" tight.chunkSize tight.overlapSize := by
    decide +kernel
  have hrun : Runs (ofText true tight "p" "abcdefgh" 0) _ _ :=
    runs_of_round (by decide) hbodies hshows (.inr ⟨by decide, _, hlast, rfl⟩)
  exact ⟨_, _, hrun.steps, rfl⟩

theorem tight_dropped_accounted :
    ∃ t s, Steps (ofText true tight "p" "abcdefgh" 0) t (.done (.ok s)) ∧ s.dropped = 1 ∧
      ∃ rounds u v, Levels tight "abcdefgh" rounds u ∧ t = u ++ v ∧
        Accounted rounds u v (.ok s) := by
  obtain ⟨t, s, hrun, hdropped⟩ := exists_steps_tight_dropped
  exact ⟨t, s, hrun, hdropped, ofText_accounted (by decide) hrun⟩

end Dissect.Summary
