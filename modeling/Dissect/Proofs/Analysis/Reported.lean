import Dissect.Proofs.Analysis.Conversation
import Dissect.Proofs.Analysis.Stages

namespace Dissect.Analysis

open Plan Summary
open Text (Utf8.Fault)

/-- What a result reports about the attempts that a conversation shows. -/
structure Reported (setup : Setup) (t : List (Event Call)) (r : Result) : Prop where
  one_le : 1 ≤ (sent t).length
  le_limit : ((sent t).length : Int) ≤ setup.maxRetries
  attempts_eq : r.attempts = if r.status = .error then setup.maxRetries else (sent t).length
  wording : r.status = .error → ∃ problem, r.error
    = some (r.category ++ " failed after " ++ toString (sent t).length ++ " attempts: " ++ problem)
  wrong_iff : r.attempts ≠ (sent t).length ↔
    setup.useFallback = false ∧ ((sent t).length : Int) < setup.maxRetries ∧
      ∃ e, (received t).getLast? = some (.error e) ∧ e.mayPass = false

/-- The result of a category comes of a call about it that shows the conversation. -/
def ComesOf (setup : Setup) (c : Category) (prompt : String) (fallback : Option String)
    (t : List (Event Call)) (r : Result) : Prop :=
  ∃ outcome, Steps (askUpTo prompt c.name fallback setup.maxRetries.toNat) t (.done outcome) ∧
    r = titled setup c outcome

section

variable {setup : Setup} {s : Subject} {c : Category} {prompt : String} {fallback : Option String}
  {first last count : Nat} {replies : Nat → Except CallError String} {t : List (Event Call)}
  {r : Result}

theorem exists_answeredFrom_one (t : List (Event Call)) :
    ∃ replies, AnsweredFrom replies 1 t := by
  refine ⟨fun i => (received t).getD (i - 1) (.ok ""), List.ext_getElem (by simp) ?_⟩
  intro i hi hi'
  simp [hi]

theorem getLast?_received_conversation :
    (received (conversation prompt replies first last)).getLast? = some (replies last) := by
  rw [conversation, received_append, received_exchange, List.getLast?_concat]

theorem isFinal_lastAttempt (h : lastAttempt fallback replies first count < first + count - 1) :
    isFinal fallback (replies (lastAttempt fallback replies first count)) = true := by
  rw [lastAttempt] at h ⊢
  cases hfind : (List.range' first count).find? fun i => isFinal fallback (replies i) with
  | none =>
      rw [hfind, Option.getD_none] at h
      exact absurd h (lt_irrefl _)
  | some i =>
      rw [Option.getD_some]
      exact List.find?_some (p := fun i => isFinal fallback (replies i)) hfind

theorem status_titled_outcomeOf {k : Nat} {reply : Except CallError String} :
    (titled setup c (outcomeOf c.name fallback k reply)).status = .error ↔
      useOf reply = none ∧ fallback = none := by
  cases huse : useOf reply <;> cases fallback <;> simp [outcomeOf, huse, titled]

theorem attempts_titled_outcomeOf {k : Nat} {reply : Except CallError String} :
    (titled setup c (outcomeOf c.name fallback k reply)).attempts =
      if (titled setup c (outcomeOf c.name fallback k reply)).status = .error then
        setup.maxRetries
      else k := by
  cases huse : useOf reply <;> cases fallback <;> simp [outcomeOf, huse, titled]

theorem error_titled_outcomeOf {k : Nat} {reply : Except CallError String}
    (h : (titled setup c (outcomeOf c.name fallback k reply)).status = .error) :
    ∃ problem, (titled setup c (outcomeOf c.name fallback k reply)).error
      = some ((titled setup c (outcomeOf c.name fallback k reply)).category ++ " failed after "
        ++ toString k ++ " attempts: " ++ problem) := by
  obtain ⟨huse, rfl⟩ := status_titled_outcomeOf.mp h
  refine ⟨trouble c.name reply, ?_⟩
  simp [outcomeOf, huse, titled]

/-- A reply of no use that ends a call for which nothing stands in is a refusal. -/
theorem useOf_eq_none_iff_of_isFinal {reply : Except CallError String}
    (h : isFinal none reply = true) :
    useOf reply = none ↔ ∃ e, reply = .error e ∧ e.mayPass = false := by
  cases reply with
  | ok text =>
      have huse : isUsable text = true := by simpa [isFinal] using h
      simp [useOf, huse]
  | error e =>
      have hpass : e.mayPass = false := by simpa [isFinal] using h
      simp [useOf, hpass]

theorem reported_titled (hlimit : 1 ≤ setup.maxRetries)
    (hfallback : fallback.isSome = setup.useFallback) (h : ComesOf setup c prompt fallback t r) :
    Reported setup t r := by
  obtain ⟨outcome, hsteps, rfl⟩ := h
  obtain ⟨replies, hanswered⟩ := exists_answeredFrom_one t
  have hallowed : 0 < setup.maxRetries.toNat := by omega
  obtain ⟨last, hlast⟩ : ∃ last, lastAttempt fallback replies 1 setup.maxRetries.toNat = last :=
    ⟨_, rfl⟩
  have hprotocol : KeepsProtocol prompt c.name fallback setup.maxRetries.toNat replies last :=
    hlast ▸ keepsProtocol_lastAttempt hallowed
  have hfinal : last < 1 + setup.maxRetries.toNat - 1 → isFinal fallback (replies last) = true :=
    hlast ▸ isFinal_lastAttempt
  obtain ⟨rfl, rfl⟩ := (hprotocol.steps_iff t outcome).mp ⟨hsteps, hanswered⟩
  have hone := hprotocol.one_le
  have hle := hprotocol.le_allowed
  have hcalls : (sent (conversation prompt replies 1 last)).length = last := by
    rw [hprotocol.sent, List.length_replicate]
  refine ⟨by omega, by omega, ?_, ?_, ?_⟩
  · rw [hcalls]
    exact attempts_titled_outcomeOf
  · rw [hcalls]
    exact error_titled_outcomeOf
  · rw [hcalls, getLast?_received_conversation, attempts_titled_outcomeOf]
    simp only [Option.some_inj]
    constructor
    · intro hne
      split at hne
      · rename_i herror
        obtain ⟨huse, rfl⟩ := status_titled_outcomeOf.mp herror
        have hless : last < 1 + setup.maxRetries.toNat - 1 := by omega
        exact ⟨hfallback.symm, by omega, (useOf_eq_none_iff_of_isFinal (hfinal hless)).mp huse⟩
      · exact absurd rfl hne
    · rintro ⟨hwithout, hless, e, he, -⟩
      have hnone : fallback = none := by simpa [hwithout] using hfallback
      have huse : useOf (replies last) = none := by rw [he, useOf]
      rw [if_pos (status_titled_outcomeOf.mpr ⟨huse, hnone⟩)]
      omega

end

/-- What results report about the attempts made for them: for a category, and for the last one that
joins results. -/
theorem reported_of_steps {setup : Setup} (hlimit : 1 ≤ setup.maxRetries) (s : Subject)
    (c : Category) :
    (∀ t r, Steps (askCategory setup s c) t (.done (.ok r)) →
      ∃ samples prompt u v, samplesFor s c = .ok samples ∧ t = u ++ v ∧
        Steps (promptFor setup s c samples) u (.done prompt) ∧
        ComesOf setup c prompt (standInFor setup s c) v r ∧ Reported setup v r) ∧
      ∀ results t r, Steps (joinResults setup s c results) t (.done r) →
        ∃ blocks u v, t = u ++ v ∧
          Steps (inOrder (results.map (blockOf setup results.length))) u (.done blocks) ∧
          ComesOf setup c (c.prompt { s.context with priorBlocks := blocks })
            (standInForAll setup results) v r ∧ Reported setup v r := by
  constructor
  · intro t r hsteps
    have hrun := steps_done_iff.mp hsteps
    obtain ⟨samples, hsamples⟩ := exists_samplesFor_of_runs hrun
    obtain ⟨prompt, u, v, outcome, rfl, hprompt, hask, hr⟩ := runs_askCategory hsamples hrun
    have hcomes : ComesOf setup c prompt (standInFor setup s c) v r :=
      ⟨outcome, hask.steps, Except.ok.inj hr⟩
    exact ⟨samples, prompt, u, v, hsamples, rfl, hprompt.steps, hcomes,
      reported_titled hlimit isSome_standInFor hcomes⟩
  · intro results t r hsteps
    obtain ⟨blocks, u, v, outcome, rfl, hblocks, hask, hr⟩ :=
      runs_joinResults (steps_done_iff.mp hsteps)
    have hcomes : ComesOf setup c (c.prompt { s.context with priorBlocks := blocks })
        (standInForAll setup results) v r := ⟨outcome, hask.steps, hr⟩
    exact ⟨blocks, u, v, rfl, hblocks.steps, hcomes,
      reported_titled hlimit isSome_standInForAll hcomes⟩

def nothing : Subject := ⟨.ofUnits [] 0 "app.js" false, none, fun _ => .ok none⟩

def plainFacet : Category := ⟨"functions", "Functions", [], 5, .ofKind "functions" []⟩

def threeAttempts (useFallback : Bool) : Setup :=
  ⟨"Fake", false, .standard, [plainFacet, ⟨"synthesis", "Codebase Overview", [], 0, .synthesis⟩], 3,
    0.5, none, useFallback⟩

def badRequest : CallError := ⟨"bad request", some 400⟩

theorem steps_askCategory_refused (useFallback : Bool) :
    Steps (askCategory (threeAttempts useFallback) nothing plainFacet)
      (exchange (plainFacet.prompt nothing.context) (.error badRequest))
      (.done (.ok (titled (threeAttempts useFallback) plainFacet (outcomeOf "functions"
        (standInFor (threeAttempts useFallback) nothing plainFacet) 1 (.error badRequest))))) := by
  have hfinal : isFinal (standInFor (threeAttempts useFallback) nothing plainFacet)
      (.error badRequest) = true := rfl
  have hask : Runs (askUpTo (plainFacet.prompt nothing.context) "functions"
      (standInFor (threeAttempts useFallback) nothing plainFacet) 3)
      (exchange (plainFacet.prompt nothing.context) (.error badRequest))
      (outcomeOf "functions" (standInFor (threeAttempts useFallback) nothing plainFacet) 1
        (.error badRequest)) :=
    runs_attemptFrom_iff.mpr ⟨.error badRequest, .inl ⟨(verdict_eq _).trans (if_pos (.inl hfinal)),
      rfl⟩⟩
  have hprompt : Runs (promptFor (threeAttempts useFallback) nothing plainFacet "") []
      (plainFacet.prompt nothing.context) := ⟨rfl, rfl⟩
  rw [steps_done_iff]
  exact runs_bind.mpr ⟨_, [], _, rfl, hprompt, runs_bind_pure.mpr ⟨_, hask, rfl⟩⟩

theorem reported_of_steps_refused :
    1 ≤ (threeAttempts true).maxRetries ∧ ∃ t r u v,
      Steps (askCategory (threeAttempts true) nothing plainFacet) t (.done (.ok r)) ∧
        r.status = .fallback ∧ r.attempts = 1 ∧ t = u ++ v ∧ Reported (threeAttempts true) v r := by
  have hlimit : 1 ≤ (threeAttempts true).maxRetries := by decide
  have hsteps := steps_askCategory_refused true
  obtain ⟨_, _, u, v, -, ht, -, -, hreported⟩ :=
    (reported_of_steps hlimit nothing plainFacet).1 _ _ hsteps
  exact ⟨hlimit, _, _, u, v, hsteps, rfl, rfl, ht, hreported⟩

/-- A result without statistics that stand in reports three attempts where one was made. -/
theorem exists_attempts_overstated :
    ∃ t r, Steps (askCategory (threeAttempts false) nothing plainFacet) t (.done (.ok r)) ∧
      r.status = .error ∧ r.attempts = 3 ∧
      sent t = [plainFacet.prompt nothing.context] :=
  ⟨_, _, steps_askCategory_refused false, rfl, rfl, rfl⟩

end Dissect.Analysis
