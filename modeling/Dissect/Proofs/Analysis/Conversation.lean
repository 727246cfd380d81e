import Dissect.Proofs.Analysis.Attempts

namespace Dissect.Analysis

open Plan Summary

def isFinal (fallback : Option String) : Except CallError String → Bool
  | .ok reply => isUsable reply || fallback.isSome
  | .error e => !e.mayPass

/-- Which of `count` attempts from one on is the last that is made, by the replies to each: the
first that has a final reply, or where none has one, the last of all. -/
def lastAttempt (fallback : Option String) (replies : Nat → Except CallError String)
    (first count : Nat) : Nat :=
  ((List.range' first count).find? fun i => isFinal fallback (replies i)).getD (first + count - 1)

/-- The attempts from one to another, with a pause behind each but the last. -/
def conversation (prompt : String) (replies : Nat → Except CallError String) (first last : Nat) :
    List (Event Call) :=
  ((List.range' first (last - first)).flatMap fun i =>
      exchange prompt (replies i) ++ gap (backOff i))
    ++ exchange prompt (replies last)

def trouble (category : String) : Except CallError String → String
  | .ok _ => category ++ " returned no usable content"
  | .error e => e.message

def outcomeOf (category : String) (fallback : Option String) (attempt : Nat)
    (reply : Except CallError String) : Except CallError Result :=
  match useOf reply, fallback with
  | some text, _ => .ok ⟨category, text, .ok, attempt, none, none⟩
  | none, some content =>
      .ok ⟨category, content, .fallback, attempt, some (trouble category reply), none⟩
  | none, none =>
      .error ⟨category ++ " failed after " ++ toString attempt ++ " attempts: "
        ++ trouble category reply, none⟩

def received (t : List (Event Call)) : List (Except CallError String) :=
  t.filterMap fun
    | .answered (.ask _) reply => some reply
    | _ => none

/-- The replies that came are those of a sequence to the attempts from one on. -/
def AnsweredFrom (replies : Nat → Except CallError String) (first : Nat)
    (t : List (Event Call)) : Prop :=
  received t = (List.range' first (received t).length).map replies

/-- A call keeps to the protocol up to its last attempt, whatever the replies are. -/
structure KeepsProtocol (prompt category : String) (fallback : Option String) (allowed : Nat)
    (replies : Nat → Except CallError String) (last : Nat) : Prop where
  one_le : 1 ≤ last
  le_allowed : last ≤ allowed
  steps_iff : ∀ t outcome,
    Steps (askUpTo prompt category fallback allowed) t (.done outcome) ∧ AnsweredFrom replies 1 t ↔
      t = conversation prompt replies 1 last ∧
        outcome = outcomeOf category fallback last (replies last)
  sent : sent (conversation prompt replies 1 last) = List.replicate last prompt
  paused : paused (conversation prompt replies 1 last)
    = (List.range' 1 (last - 1)).map fun i => Float.ofNat (2 ^ i)

section

variable {prompt category : String} {fallback : Option String} {left attempt first last : Nat}
  {replies : Nat → Except CallError String} {t u : List (Event Call)}
  {outcome : Except CallError Result}

theorem received_append : received (t ++ u) = received t ++ received u :=
  List.filterMap_append

theorem received_exchange (m : String) (reply : Except CallError String) :
    received (exchange m reply) = [reply] :=
  rfl

theorem received_gap (seconds : Float) : received (gap seconds) = [] :=
  rfl

theorem answeredFrom_exchange {reply : Except CallError String} :
    AnsweredFrom replies first (exchange prompt reply) ↔ reply = replies first := by
  simp [AnsweredFrom, received_exchange]

theorem answeredFrom_again {reply : Except CallError String} {seconds : Float} :
    AnsweredFrom replies first (exchange prompt reply ++ (gap seconds ++ t)) ↔
      reply = replies first ∧ AnsweredFrom replies (first + 1) t := by
  simp [AnsweredFrom, received_append, received_exchange, received_gap, List.range'_succ]

theorem conversation_self :
    conversation prompt replies first first = exchange prompt (replies first) := by
  simp [conversation]

theorem conversation_again (h : first < last) : conversation prompt replies first last
    = exchange prompt (replies first)
      ++ (gap (backOff first) ++ conversation prompt replies (first + 1) last) := by
  have hcount : last - first = (last - (first + 1)) + 1 := by omega
  simp only [conversation, hcount, List.range'_succ, List.flatMap_cons, List.append_assoc]

theorem sent_conversation (h : first ≤ last) :
    sent (conversation prompt replies first last) = List.replicate (last + 1 - first) prompt := by
  induction h using Nat.decreasingInduction with
  | self => simp [conversation_self, sent_exchange]
  | of_succ k hk ih =>
      have hcount : last + 1 - k = (last + 1 - (k + 1)) + 1 := by omega
      rw [conversation_again hk, sent_append, sent_append, ih, sent_exchange, sent_gap, hcount,
        List.replicate_succ]
      rfl

theorem paused_conversation (h : first ≤ last) :
    paused (conversation prompt replies first last)
      = (List.range' first (last - first)).map backOff := by
  induction h using Nat.decreasingInduction with
  | self => simp [conversation_self, paused_exchange]
  | of_succ k hk ih =>
      have hcount : last - k = (last - (k + 1)) + 1 := by omega
      rw [conversation_again hk, paused_append, paused_append, ih, paused_exchange, paused_gap,
        hcount, List.range'_succ]
      rfl

theorem lastAttempt_one : lastAttempt fallback replies first 1 = first := by
  cases h : isFinal fallback (replies first) <;> simp [lastAttempt, h]

theorem lastAttempt_of_isFinal {count : Nat} (h : isFinal fallback (replies first) = true) :
    lastAttempt fallback replies first (count + 1) = first := by
  simp [lastAttempt, List.range'_succ, h]

theorem lastAttempt_of_not_isFinal {count : Nat} (h : isFinal fallback (replies first) = false) :
    lastAttempt fallback replies first (count + 2)
      = lastAttempt fallback replies (first + 1) (count + 1) := by
  have hcount : first + (count + 2) - 1 = first + 1 + (count + 1) - 1 := by omega
  rw [lastAttempt, List.range'_succ, List.find?_cons_of_neg (by simp [h]), hcount]
  rfl

theorem bounds_lastAttempt {count : Nat} (hcount : 0 < count) :
    first ≤ lastAttempt fallback replies first count ∧
      lastAttempt fallback replies first count < first + count := by
  rw [lastAttempt]
  cases h : (List.range' first count).find? fun i => isFinal fallback (replies i) with
  | none =>
      rw [Option.getD_none]
      omega
  | some i =>
      have hmem := List.mem_of_find?_eq_some h
      rw [List.mem_range'_1] at hmem
      rwa [Option.getD_some]

theorem verdict_eq (reply : Except CallError String) :
    verdict category fallback left attempt reply =
      if isFinal fallback reply = true ∨ left = 0 then
        some (outcomeOf category fallback attempt reply)
      else none := by
  cases reply with
  | ok reply =>
      cases huse : isUsable reply <;> cases fallback <;> cases left <;>
        simp [verdict, isFinal, outcomeOf, useOf, huse, giveUp, standIn, trouble, noContent]
  | error e =>
      cases hpass : e.mayPass <;> cases fallback <;> cases left <;>
        simp [verdict, isFinal, outcomeOf, useOf, hpass, giveUp, standIn, trouble]

theorem runs_attemptFrom_iff :
    Runs (attemptFrom prompt category fallback left attempt) t outcome ↔
      ∃ reply, (verdict category fallback left attempt reply = some outcome ∧
          t = exchange prompt reply) ∨
        (verdict category fallback left attempt reply = none ∧
          ∃ u, t = exchange prompt reply ++ (gap (backOff attempt) ++ u) ∧
            Runs (attemptFrom prompt category fallback (left - 1) (attempt + 1)) u outcome) := by
  refine ⟨runs_attemptFrom, ?_⟩
  rintro ⟨reply, hcases⟩
  rw [attemptFrom_eq, runs_bind]
  rcases hcases with ⟨hverdict, rfl⟩ | ⟨hverdict, u, rfl, hrest⟩
  · refine ⟨reply, _, [], (List.append_nil _).symm, runs_perform.mpr rfl, ?_⟩
    rw [hverdict]
    exact runs_pure.mpr ⟨rfl, rfl⟩
  · refine ⟨reply, _, _, rfl, runs_perform.mpr rfl, ?_⟩
    rw [hverdict]
    exact runs_bind.mpr ⟨(), _, u, rfl, runs_perform.mpr rfl, hrest⟩

theorem runs_answered_last (h : isFinal fallback (replies attempt) = true ∨ left = 0) :
    Runs (attemptFrom prompt category fallback left attempt) t outcome ∧
        AnsweredFrom replies attempt t ↔
      t = exchange prompt (replies attempt) ∧
        outcome = outcomeOf category fallback attempt (replies attempt) := by
  have hverdict : verdict category fallback left attempt (replies attempt)
      = some (outcomeOf category fallback attempt (replies attempt)) := by
    rw [verdict_eq, if_pos h]
  constructor
  · rintro ⟨hrun, hanswered⟩
    obtain ⟨reply, ⟨hsome, rfl⟩ | ⟨hnone, u, rfl, -⟩⟩ := runs_attemptFrom_iff.mp hrun
    · obtain rfl := answeredFrom_exchange.mp hanswered
      exact ⟨rfl, Option.some.inj (hsome.symm.trans hverdict)⟩
    · obtain ⟨rfl, -⟩ := answeredFrom_again.mp hanswered
      cases hnone.symm.trans hverdict
  · rintro ⟨rfl, rfl⟩
    exact ⟨runs_attemptFrom_iff.mpr ⟨_, .inl ⟨hverdict, rfl⟩⟩, answeredFrom_exchange.mpr rfl⟩

theorem runs_answered_again (h : isFinal fallback (replies attempt) = false) :
    Runs (attemptFrom prompt category fallback (left + 1) attempt) t outcome ∧
        AnsweredFrom replies attempt t ↔
      ∃ u, t = exchange prompt (replies attempt) ++ (gap (backOff attempt) ++ u) ∧
        Runs (attemptFrom prompt category fallback left (attempt + 1)) u outcome ∧
        AnsweredFrom replies (attempt + 1) u := by
  have hverdict : verdict category fallback (left + 1) attempt (replies attempt) = none := by
    simp [verdict_eq, h]
  constructor
  · rintro ⟨hrun, hanswered⟩
    obtain ⟨reply, ⟨hsome, rfl⟩ | ⟨hnone, u, rfl, hrest⟩⟩ := runs_attemptFrom_iff.mp hrun
    · obtain rfl := answeredFrom_exchange.mp hanswered
      cases hsome.symm.trans hverdict
    · obtain ⟨rfl, hlater⟩ := answeredFrom_again.mp hanswered
      exact ⟨u, rfl, hrest, hlater⟩
  · rintro ⟨u, rfl, hrest, hlater⟩
    exact ⟨runs_attemptFrom_iff.mpr ⟨_, .inr ⟨hverdict, u, rfl, hrest⟩⟩,
      answeredFrom_again.mpr ⟨rfl, hlater⟩⟩

theorem runs_attemptFrom_answered :
    Runs (attemptFrom prompt category fallback left attempt) t outcome ∧
        AnsweredFrom replies attempt t ↔
      t = conversation prompt replies attempt
          (lastAttempt fallback replies attempt (left + 1)) ∧
        outcome = outcomeOf category fallback
          (lastAttempt fallback replies attempt (left + 1))
          (replies (lastAttempt fallback replies attempt (left + 1))) := by
  induction left generalizing attempt t with
  | zero => rw [runs_answered_last (.inr rfl), lastAttempt_one, conversation_self]
  | succ left ih =>
      cases hfinal : isFinal fallback (replies attempt) with
      | true =>
          rw [runs_answered_last (.inl hfinal), lastAttempt_of_isFinal hfinal, conversation_self]
      | false =>
          rw [runs_answered_again hfinal, lastAttempt_of_not_isFinal hfinal]
          simp only [ih]
          have hlast : attempt < lastAttempt fallback replies (attempt + 1) (left + 1) :=
            (bounds_lastAttempt (Nat.succ_pos left)).1
          rw [conversation_again hlast]
          constructor
          · rintro ⟨u, rfl, rfl, rfl⟩
            exact ⟨rfl, rfl⟩
          · rintro ⟨rfl, rfl⟩
            exact ⟨_, rfl, rfl, rfl⟩

theorem keepsProtocol_lastAttempt {allowed : Nat} (hallowed : 0 < allowed) :
    KeepsProtocol prompt category fallback allowed replies
      (lastAttempt fallback replies 1 allowed) := by
  obtain ⟨left, rfl⟩ : ∃ left, allowed = left + 1 := ⟨allowed - 1, by omega⟩
  obtain ⟨hfirst, hlast⟩ : 1 ≤ lastAttempt fallback replies 1 (left + 1) ∧
      lastAttempt fallback replies 1 (left + 1) < 1 + (left + 1) := bounds_lastAttempt hallowed
  refine ⟨hfirst, by omega, fun t outcome => ?_, ?_, ?_⟩
  · rw [steps_done_iff]
    exact runs_attemptFrom_answered
  · rw [sent_conversation hfirst, Nat.add_sub_cancel]
  · rw [paused_conversation hfirst]
    rfl

end

/-- A call with a limit on attempts of one at least ends, and keeps to the protocol for any replies
to its attempts. -/
theorem askUpTo_keepsProtocol {limit : Int} (hlimit : 1 ≤ limit) (prompt category : String)
    (fallback : Option String) :
    attemptsAllowed limit = .ok limit.toNat ∧
      (askUpTo prompt category fallback limit.toNat).Halts ∧
      ∀ replies, KeepsProtocol prompt category fallback limit.toNat replies
        (lastAttempt fallback replies 1 limit.toNat) := by
  have hallowed : 0 < limit.toNat := by omega
  refine ⟨?_, halts nonempty_answer _, fun replies => keepsProtocol_lastAttempt hallowed⟩
  rw [attemptsAllowed, if_neg (not_lt.mpr hlimit)]

def flaky : Nat → Except CallError String
  | 1 => .error ⟨"try later", some 503⟩
  | 2 => .ok " \n"
  | _ => .ok "done"

theorem askUpTo_keepsProtocol_flaky :
    (1 : Int) ≤ 5 ∧ lastAttempt none flaky 1 5 = 3 ∧ lastAttempt (some "counts") flaky 1 5 = 2 ∧
      lastAttempt none flaky 1 2 = 2 ∧
      attemptsAllowed 5 = .ok 5 ∧ (askUpTo "p" "functions" none 5).Halts ∧
      ∀ replies, KeepsProtocol "p" "functions" none 5 replies (lastAttempt none replies 1 5) :=
  ⟨by decide, by decide +kernel, by decide +kernel, by decide +kernel,
    askUpTo_keepsProtocol (by decide) "p" "functions" none⟩

end Dissect.Analysis
