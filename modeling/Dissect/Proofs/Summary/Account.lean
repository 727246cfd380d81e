import Dissect.Proofs.Summary.Rounds

/-!
The account of a whole summary: rounds, each about the joined replies of the one before, then a call
about the text that is left, unless no reply of the last round is of use.
-/

namespace Dissect.Summary

open Plan Text

/-- Rounds about a text, each about what the one before it left, and the events that they show. -/
inductive Levels (b : Budget) : String → List Round → List (Event Call) → Prop
  | nil (text : String) : Levels b text [] []
  | cons {text : String} {r : Round} {rounds : List Round} {t u : List (Event Call)}
      (hlong : b.contextLimit < tokenCount text)
      (hbodies : r.bodies = chunks text b.chunkSize b.overlapSize) (hshows : r.Shows t)
      (hrest : Levels b r.joined rounds u) : Levels b text (r :: rounds) (t ++ u)

def textAfter (text : String) : List Round → String
  | [] => text
  | r :: rounds => textAfter r.joined rounds

/-- The number of rounds whose joined replies do not fit a call and are summarised in turn. -/
def recursions (b : Budget) (rounds : List Round) : Nat :=
  rounds.countP fun r => b.contextLimit < tokenCount r.joined

def escalated (k : Nat) (prompt : String) : String := (message nextLevelPrompt)^[k] prompt

/-- What the last call is about: a text that fits, or the front of one when no level is left. -/
inductive Closing (b : Budget) (left : Nat) (rounds : List Round) (text : String) :
    String → Bool → Prop
  | whole (h : (tokenCount text : Int) ≤ b.contextLimit) : Closing b left rounds text text false
  | cutOff (h : b.contextLimit < tokenCount text) (hlevels : rounds.length = left) :
      Closing b left rounds text (front text (b.contextLimit * tokenLength)) true

def summaryOf (rounds : List Round) (degraded : Bool) (reply : String) : Summary :=
  ⟨reply, rounds.length + 1, (rounds.map (·.calls.length)).sum + 1,
    (rounds.map Round.dropped).sum, degraded⟩

def Concludes (b : Budget) (left : Nat) (prompt text : String) (rounds : List Round)
    (t : List (Event Call)) (result : Except CallError Summary) : Prop :=
  (∀ r ∈ rounds, r.usable ≠ []) ∧ ∃ body degraded reply,
    Closing b left rounds (textAfter text rounds) body degraded ∧
    t = exchange (message (escalated (recursions b rounds) prompt) body) reply ∧
    result = reply.map (summaryOf rounds degraded)

/-- The end when no reply of the last round is of use. -/
def GivesUp (depth : Int) (rounds : List Round) (t : List (Event Call))
    (result : Except CallError Summary) : Prop :=
  ∃ front r, rounds = front ++ [r] ∧ r.usable = [] ∧ t = [] ∧
    result = .error (allFailed r.calls.length (depth + front.length))

section

variable {b : Budget} {left : Nat} {depth : Int} {prompt text : String} {rounds : List Round}
  {r : Round} {t : List (Event Call)} {inner : Except CallError Summary}

theorem Concludes.cons (hlong : b.contextLimit < tokenCount r.joined) (hsome : r.usable ≠ [])
    (h : Concludes b left (message nextLevelPrompt prompt) r.joined rounds t inner) :
    Concludes b (left + 1) prompt text (r :: rounds) t
      (inner.map (reduced · r.calls.length r.dropped)) := by
  obtain ⟨husable, body, degraded, reply, hclosing, rfl, rfl⟩ := h
  refine ⟨List.forall_mem_cons.mpr ⟨hsome, husable⟩, body, degraded, reply, ?_, ?_, ?_⟩
  · cases hclosing with
    | whole h => exact .whole h
    | cutOff h hlevels => exact .cutOff h (congrArg (· + 1) hlevels)
  · have hcount : recursions b (r :: rounds) = recursions b rounds + 1 :=
      List.countP_cons_of_pos (decide_eq_true hlong)
    rw [hcount, escalated, escalated, Function.iterate_succ_apply]
  · cases reply with
    | error e => rfl
    | ok s =>
        simp only [Except.map, summaryOf, reduced, List.length_cons, List.map_cons, List.sum_cons,
          Nat.add_assoc]

theorem GivesUp.cons (h : GivesUp (depth + 1) rounds t inner) :
    GivesUp depth (r :: rounds) t (inner.map (reduced · r.calls.length r.dropped)) := by
  obtain ⟨before, last, rfl, hnone, rfl, rfl⟩ := h
  refine ⟨r :: before, last, rfl, hnone, rfl, ?_⟩
  rw [Except.map, List.length_cons, Nat.cast_add, Nat.cast_one, add_assoc, add_comm 1]

theorem GivesUp.not_ok {s : Summary} : ¬ GivesUp depth rounds t (.ok s) := by
  rintro ⟨before, last, -, -, -, hresult⟩
  cases hresult

theorem exists_of_concludes_ok {s : Summary}
    (h : GivesUp depth rounds t (.ok s) ∨ Concludes b left prompt text rounds t (.ok s)) :
    ∃ body degraded reply, Closing b left rounds (textAfter text rounds) body degraded ∧
      t = exchange (message (escalated (recursions b rounds) prompt) body) (.ok reply) ∧
      s = summaryOf rounds degraded reply := by
  rcases h with hfailed | ⟨-, body, degraded, reply, hclosing, rfl, hresult⟩
  · exact absurd hfailed GivesUp.not_ok
  · cases reply with
    | error e => cases hresult
    | ok reply => exact ⟨body, degraded, reply, hclosing, rfl, Except.ok.inj hresult⟩

theorem Levels.single (hlong : b.contextLimit < tokenCount text)
    (hbodies : r.bodies = chunks text b.chunkSize b.overlapSize) (hshows : r.Shows t) :
    Levels b text [r] t := by
  have hlevels := Levels.cons hlong hbodies hshows (.nil r.joined)
  rwa [List.append_nil] at hlevels

theorem concludes_of_oneCall {body : String} {degraded : Bool}
    (hclosing : Closing b left [] text body degraded)
    (h : Runs (ofOneCall prompt body degraded) t inner) :
    Concludes b left prompt text [] t inner := by
  obtain ⟨reply, rfl, rfl⟩ := runs_ofOneCall.mp h
  exact ⟨by simp, body, degraded, reply, hclosing, rfl, rfl⟩

theorem concludes_of_joined (hsome : r.usable ≠ [])
    (hfits : (tokenCount r.joined : Int) ≤ b.contextLimit)
    (h : Runs (ofOneCall prompt r.joined false) t inner) :
    Concludes b left prompt text [r] t (inner.map (reduced · r.calls.length r.dropped)) := by
  obtain ⟨reply, rfl, rfl⟩ := runs_ofOneCall.mp h
  have hcount : recursions b [r] = 0 := by simp [recursions, hfits]
  refine ⟨by simpa using hsome, r.joined, false, reply, .whole hfits, ?_, ?_⟩
  · rw [hcount]
    rfl
  · cases reply <;> simp [Except.map, summaryOf, reduced]

/-- With no level left, one call is made, about the front of a text that does not fit. -/
theorem exists_closing_zero (concurrent : Bool) (b : Budget) (depth : Int) (prompt text : String) :
    ∃ body degraded, Closing b 0 [] text body degraded ∧
      ofTextFrom concurrent b 0 depth prompt text = ofOneCall prompt body degraded := by
  rcases le_or_gt (tokenCount text : Int) b.contextLimit with hfits | hlong
  · exact ⟨_, _, .whole hfits, ofTextFrom_of_fits hfits⟩
  · exact ⟨_, _, .cutOff hlong rfl, ofTextFrom_zero hlong⟩

/-- Every run of a summary is accounted for. -/
theorem exists_levels_of_runs {concurrent : Bool} {result : Except CallError Summary}
    (h : Runs (ofTextFrom concurrent b left depth prompt text) t result) :
    ∃ rounds u v, Levels b text rounds u ∧ t = u ++ v ∧ rounds.length ≤ left ∧
      (GivesUp depth rounds v result ∨ Concludes b left prompt text rounds v result) := by
  induction left generalizing depth prompt text t result with
  | zero =>
      obtain ⟨body, degraded, hclosing, heq⟩ := exists_closing_zero concurrent b depth prompt text
      rw [heq] at h
      exact ⟨[], [], t, .nil text, rfl, le_rfl, .inr (concludes_of_oneCall hclosing h)⟩
  | succ left ih =>
      rcases le_or_gt (tokenCount text : Int) b.contextLimit with hfits | hlong
      · rw [ofTextFrom_of_fits hfits] at h
        exact ⟨[], [], t, .nil text, rfl, Nat.zero_le _,
          .inr (concludes_of_oneCall (.whole hfits) h)⟩
      · obtain ⟨r, u, v, hbodies, hshows, rfl, hrest⟩ := exists_round_of_runs hlong h
        have hsingle := Levels.single hlong hbodies hshows
        rcases hrest with ⟨hnone, rfl, rfl⟩ | ⟨hsome, inner, hinner, rfl⟩
        · refine ⟨[r], u, [], hsingle, rfl, by simp, .inl ⟨[], r, rfl, hnone, rfl, ?_⟩⟩
          rw [List.length_nil, Nat.cast_zero, add_zero]
        · rw [afterRound] at hinner
          split at hinner
          -- The joined replies are summarised on a level of their own, or by the last call.
          · rename_i hjoined
            obtain ⟨rounds, u', v', hlevels, rfl, hlength, hend⟩ := ih hinner
            refine ⟨r :: rounds, u ++ u', v', .cons hlong hbodies hshows hlevels,
              (List.append_assoc ..).symm, Nat.succ_le_succ hlength, ?_⟩
            exact hend.imp GivesUp.cons (Concludes.cons hjoined hsome)
          · rename_i hjoined
            exact ⟨[r], u, v, hsingle, rfl, by simp,
              .inr (concludes_of_joined hsome (not_lt.mp hjoined) hinner)⟩

end

end Dissect.Summary
