import Dissect.Analysis.Retry
import Dissect.Proofs.Call.Replies

namespace Dissect.Analysis

open Plan Summary

/-- The outcome by the reply to an attempt, with `left` more to go; none where the call is repeated.
-/
def verdict (category : String) (fallback : Option String) (left attempt : Nat) :
    Except CallError String → Option (Except CallError Result)
  | .ok reply =>
      if isUsable reply then some (.ok ⟨category, reply, .ok, attempt, none, none⟩)
      else if fallback.isNone && 0 < left then none
      else some (giveUp category fallback attempt (noContent category))
  | .error e =>
      if e.mayPass && 0 < left then none
      else some (giveUp category fallback attempt e.message)

/-- Attempts from one on, with some more to go, and what they show and come to. -/
inductive Attempts (prompt category : String) (fallback : Option String) :
    Nat → Nat → List (Event Call) → Except CallError Result → Prop
  | last {left attempt : Nat} {reply : Except CallError String}
      {outcome : Except CallError Result}
      (h : verdict category fallback left attempt reply = some outcome) :
      Attempts prompt category fallback left attempt (exchange prompt reply) outcome
  | again {left attempt : Nat} {reply : Except CallError String} {t : List (Event Call)}
      {outcome : Except CallError Result}
      (h : verdict category fallback (left + 1) attempt reply = none)
      (rest : Attempts prompt category fallback left (attempt + 1) t outcome) :
      Attempts prompt category fallback (left + 1) attempt
        (exchange prompt reply ++ (gap (backOff attempt) ++ t)) outcome

def backOffs (retries : Nat) : List Float := (List.range' 1 retries).map backOff

/-- The pauses of several calls, each within the limit on attempts. -/
def Waits (allowed count : Nat) (delays : List Float) : Prop :=
  ∃ retries : List Nat, retries.length = count ∧ (∀ k ∈ retries, k ≤ allowed - 1) ∧
    delays = retries.flatMap backOffs

/-- A result is what the setup lets through: a reply of use, or what stands in for one where that is
wanted, else an error. -/
structure Contained (useFallback : Bool) (r : Result) : Prop where
  withFallback : useFallback = true → r.status = .ok ∨ r.status = .fallback
  withoutFallback : useFallback = false → r.status = .ok ∨ r.status = .error
  usable : r.status = .ok → Text.blank r.content = false ∧ r.content ≠ noTextReply

theorem Waits.append {allowed count count' : Nat} {delays delays' : List Float}
    (h : Waits allowed count delays) (h' : Waits allowed count' delays') :
    Waits allowed (count + count') (delays ++ delays') := by
  obtain ⟨retries, rfl, hle, rfl⟩ := h
  obtain ⟨retries', rfl, hle', rfl⟩ := h'
  exact ⟨retries ++ retries', List.length_append, List.forall_mem_append.mpr ⟨hle, hle'⟩,
    List.flatMap_append.symm⟩

theorem waits_flatten {allowed : Nat} {ts : List (List (Event Call))}
    (h : ∀ t ∈ ts, Waits allowed 1 (paused t)) : Waits allowed ts.length (paused ts.flatten) := by
  induction ts with
  | nil => exact ⟨[], rfl, by simp, rfl⟩
  | cons t ts ih =>
      obtain ⟨hfirst, hrest⟩ := List.forall_mem_cons.mp h
      rw [List.flatten_cons, paused_append, List.length_cons, Nat.add_comm]
      exact hfirst.append (ih hrest)

section

variable {prompt category : String} {fallback : Option String} {left attempt : Nat}
  {t : List (Event Call)} {outcome : Except CallError Result}

theorem attemptFrom_eq : attemptFrom prompt category fallback left attempt =
    (ask prompt >>= fun reply =>
      match verdict category fallback left attempt reply with
      | some outcome => pure outcome
      | none => pause (backOff attempt) >>= fun _ =>
          attemptFrom prompt category fallback (left - 1) (attempt + 1)) := by
  rw [attemptFrom.eq_def]
  refine congrArg (bind _) (funext fun reply => ?_)
  cases reply with
  | ok reply =>
      simp only [verdict]
      cases huse : isUsable reply with
      | true => simp
      | false => cases fallback <;> cases left <;> simp [giveUp]
  | error e =>
      simp only [verdict]
      cases hpass : e.mayPass <;> cases left <;> simp

theorem verdict_zero_ne_none {reply : Except CallError String} :
    verdict category fallback 0 attempt reply ≠ none := by
  intro h
  cases reply with
  | ok reply => cases huse : isUsable reply <;> simp [verdict, huse] at h
  | error e => simp [verdict] at h

theorem runs_attemptFrom (h : Runs (attemptFrom prompt category fallback left attempt) t outcome) :
    ∃ reply, (verdict category fallback left attempt reply = some outcome ∧
        t = exchange prompt reply) ∨
      (verdict category fallback left attempt reply = none ∧
        ∃ u, t = exchange prompt reply ++ (gap (backOff attempt) ++ u) ∧
          Runs (attemptFrom prompt category fallback (left - 1) (attempt + 1)) u outcome) := by
  rw [attemptFrom_eq] at h
  obtain ⟨reply, u, v, rfl, hask, hrest⟩ := runs_bind.mp h
  obtain rfl := runs_perform.mp hask
  refine ⟨reply, ?_⟩
  split at hrest
  · rename_i result hverdict
    obtain ⟨rfl, rfl⟩ := runs_pure.mp hrest
    exact .inl ⟨hverdict, List.append_nil _⟩
  · rename_i hverdict
    obtain ⟨_, w, x, rfl, hpause, hlater⟩ := runs_bind.mp hrest
    obtain rfl := runs_perform.mp hpause
    exact .inr ⟨hverdict, x, rfl, hlater⟩

theorem giveUp_ok {attempts : Nat} {error : String} {r : Result}
    (h : giveUp category fallback attempts error = .ok r) :
    fallback.isSome ∧ r.category = category ∧ r.status = .fallback := by
  cases fallback with
  | none => cases h
  | some content =>
      cases h
      exact ⟨rfl, rfl, rfl⟩

theorem giveUp_error {attempts : Nat} {error : String} {e : CallError}
    (h : giveUp category fallback attempts error = .error e) : fallback = none := by
  cases fallback with
  | none => rfl
  | some content => cases h

theorem verdict_eq_some {reply : Except CallError String}
    (h : verdict category fallback left attempt reply = some outcome) :
    (∃ content, isUsable content ∧ outcome = .ok ⟨category, content, .ok, attempt, none, none⟩) ∨
      ∃ error, outcome = giveUp category fallback attempt error := by
  cases reply with
  | ok reply =>
      rw [verdict] at h
      split at h
      · rename_i huse
        exact .inl ⟨reply, huse, (Option.some.inj h).symm⟩
      · split at h
        · cases h
        · exact .inr ⟨_, (Option.some.inj h).symm⟩
  | error e =>
      rw [verdict] at h
      split at h
      · cases h
      · exact .inr ⟨_, (Option.some.inj h).symm⟩

theorem attempts_of_runs (h : Runs (attemptFrom prompt category fallback left attempt) t outcome) :
    Attempts prompt category fallback left attempt t outcome := by
  induction left generalizing attempt t with
  | zero =>
      obtain ⟨reply, ⟨hverdict, rfl⟩ | ⟨hverdict, -⟩⟩ := runs_attemptFrom h
      · exact .last hverdict
      · exact absurd hverdict verdict_zero_ne_none
  | succ left ih =>
      obtain ⟨reply, ⟨hverdict, rfl⟩ | ⟨hverdict, u, rfl, hrest⟩⟩ := runs_attemptFrom h
      · exact .last hverdict
      · exact .again hverdict (ih hrest)

namespace Attempts

variable (h : Attempts prompt category fallback left attempt t outcome)

include h

theorem exists_eq_begun : ∃ u, t = .begun (.ask prompt) :: u := by
  cases h with
  | last => exact ⟨_, rfl⟩
  | again => exact ⟨_, rfl⟩

theorem sent_eq_prompt : ∀ m ∈ sent t, m = prompt := by
  induction h with
  | last => simp [sent_exchange]
  | again hverdict rest ih => simpa [sent_append, sent_exchange, sent_gap] using ih

theorem exists_paused_eq : ∃ retries ≤ left,
    paused t = (List.range' attempt retries).map backOff := by
  induction h with
  | last => exact ⟨0, Nat.zero_le _, rfl⟩
  | again hverdict rest ih =>
      obtain ⟨retries, hle, heq⟩ := ih
      refine ⟨retries + 1, Nat.succ_le_succ hle, ?_⟩
      rw [paused_append, paused_append, paused_exchange, paused_gap, heq, List.range'_succ]
      rfl

theorem exists_verdict : ∃ left attempt reply,
    verdict category fallback left attempt reply = some outcome := by
  induction h with
  | last hverdict => exact ⟨_, _, _, hverdict⟩
  | again hverdict rest ih => exact ih

theorem contained_of_ok {r : Result} (hok : outcome = .ok r) :
    r.category = category ∧ Contained fallback.isSome r := by
  obtain ⟨left, attempt, reply, hverdict⟩ := h.exists_verdict
  rcases verdict_eq_some hverdict with ⟨content, huse, rfl⟩ | ⟨error, rfl⟩
  · cases hok
    refine ⟨rfl, fun _ => .inl rfl, fun _ => .inl rfl, fun _ => ?_⟩
    simpa [isUsable] using huse
  · obtain ⟨hsome, rfl, hstatus⟩ := giveUp_ok hok
    refine ⟨rfl, fun _ => .inr hstatus, fun hnone => ?_, fun hok => ?_⟩
    · rw [hsome] at hnone
      cases hnone
    · rw [hstatus] at hok
      cases hok

theorem fallback_eq_none_of_error {e : CallError} (herror : outcome = .error e) :
    fallback = none := by
  obtain ⟨left, attempt, reply, hverdict⟩ := h.exists_verdict
  rcases verdict_eq_some hverdict with ⟨content, huse, rfl⟩ | ⟨error, rfl⟩
  · cases herror
  · exact giveUp_error herror

end Attempts

variable {model : String → Except CallError String}

theorem settles_of_verdict
    (h : verdict category fallback left attempt (model prompt) = some outcome) :
    Settles (answerBy model) (attemptFrom prompt category fallback left attempt)
      (exchange prompt (model prompt)) outcome := by
  intro t r hrun hfollows
  obtain ⟨reply, hcases⟩ := runs_attemptFrom hrun
  have hreply : reply = model prompt := by
    refine follows_answerBy.mp hfollows prompt reply ?_
    rcases hcases with ⟨-, rfl⟩ | ⟨-, u, rfl, -⟩ <;> simp [exchange]
  subst hreply
  rcases hcases with ⟨hverdict, rfl⟩ | ⟨hverdict, -⟩
  · exact ⟨Option.some.inj (hverdict.symm.trans h), .refl _⟩
  · cases hverdict.symm.trans h

theorem settles_again (h : verdict category fallback left attempt (model prompt) = none)
    (hrest : Settles (answerBy model)
      (attemptFrom prompt category fallback (left - 1) (attempt + 1)) t outcome) :
    Settles (answerBy model) (attemptFrom prompt category fallback left attempt)
      (exchange prompt (model prompt) ++ (gap (backOff attempt) ++ t)) outcome := by
  rw [attemptFrom_eq]
  refine (settles_ask prompt).bind ?_
  rw [h]
  exact (settles_pause (backOff attempt)).bind hrest

theorem exists_settles_attemptFrom (model : String → Except CallError String)
    (prompt category : String) (fallback : Option String) (left attempt : Nat) :
    ∃ s outcome, Attempts prompt category fallback left attempt s outcome ∧
      Settles (answerBy model) (attemptFrom prompt category fallback left attempt) s outcome := by
  induction left generalizing attempt with
  | zero =>
      cases hverdict : verdict category fallback 0 attempt (model prompt) with
      | none => exact absurd hverdict verdict_zero_ne_none
      | some outcome => exact ⟨_, outcome, .last hverdict, settles_of_verdict hverdict⟩
  | succ left ih =>
      cases hverdict : verdict category fallback (left + 1) attempt (model prompt) with
      | none =>
          obtain ⟨s, outcome, hattempts, hrest⟩ := ih (attempt + 1)
          exact ⟨_, outcome, .again hverdict hattempts, settles_again hverdict hrest⟩
      | some outcome => exact ⟨_, outcome, .last hverdict, settles_of_verdict hverdict⟩

theorem exists_settles_askUpTo (model : String → Except CallError String)
    (prompt category : String) (fallback : Option String) (allowed : Nat) :
    ∃ s outcome, Waits allowed 1 (paused s) ∧
      Settles (answerBy model) (askUpTo prompt category fallback allowed) s outcome := by
  obtain ⟨s, outcome, hattempts, hsettles⟩ :=
    exists_settles_attemptFrom model prompt category fallback (allowed - 1) 1
  obtain ⟨retries, hle, hpaused⟩ := hattempts.exists_paused_eq
  exact ⟨s, outcome, ⟨[retries], rfl, by simpa using hle, by simp [hpaused, backOffs]⟩, hsettles⟩

end

end Dissect.Analysis
