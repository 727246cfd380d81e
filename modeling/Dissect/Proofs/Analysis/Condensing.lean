import Dissect.Proofs.Analysis.Reported
import Dissect.Proofs.Summary.LastReply

namespace Dissect.Analysis

open Plan Summary Text

/-- A run of a summary comes to a text, which is the reply to its last call. -/
structure SumsUp (setup : Setup) (prompt text : String) (t : List (Event Call)) (reply : String) :
    Prop where
  steps : ∃ s, Steps (ofText setup.concurrent setup.budget prompt text 0) t (.done (.ok s)) ∧
    s.text = reply
  last : ∃ u m, t = u ++ exchange m (.ok reply)

/-- What takes the place of a text: its summary, or another text where there is no summary. -/
inductive Replaced (setup : Setup) (prompt text other : String) (t : List (Event Call)) :
    String → Prop
  | summary {reply : String} (h : SumsUp setup prompt text t reply) :
      Replaced setup prompt text other t reply
  | other {e : CallError}
      (h : Steps (ofText setup.concurrent setup.budget prompt text 0) t (.done (.error e))) :
      Replaced setup prompt text other t other

/-- What comes of a result for the last call: all of its text if that keeps to the budget, else what
takes its place, the front of it where there is no summary. -/
inductive Condensed (setup : Setup) (budget : Int) (r : Result) : List (Event Call) → String → Prop
  | kept (h : (tokenCount r.told : Int) ≤ budget) : Condensed setup budget r [] r.told
  | replaced {t : List (Event Call)} {content : String} (hlong : budget < tokenCount r.told)
      (h : Replaced setup (condensePrompt r) r.told (front r.told (budget * tokenLength)) t
        content) : Condensed setup budget r t content

/-- What comes of the samples of a category: all of them, if there are none or the prompt with them
keeps to the limit, else what takes their place, nothing where there is no summary. -/
inductive Compressed (setup : Setup) (s : Subject) (c : Category) (samples : String) :
    List (Event Call) → String → Prop
  | kept (h : samples = "" ∨
        (tokenCount (promptWith s c samples) : Int) ≤ setup.budget.contextLimit) :
      Compressed setup s c samples [] samples
  | replaced {t : List (Event Call)} {shorter : String} (hsome : samples ≠ "")
      (hlong : setup.budget.contextLimit < tokenCount (promptWith s c samples))
      (h : Replaced setup compressionPrompt samples "" t shorter) :
      Compressed setup s c samples t shorter

section

variable {setup : Setup} {s : Subject} {c : Category} {prompt text other content samples : String}
  {budget : Int} {r : Result} {t : List (Event Call)}

theorem replaced_iff : Replaced setup prompt text other t content ↔
    ∃ result, Runs (ofText setup.concurrent setup.budget prompt text 0) t result ∧
      content = textOr other result := by
  constructor
  · rintro (⟨⟨s, hsteps, rfl⟩, -⟩ | hsteps)
    · exact ⟨.ok s, steps_done_iff.mp hsteps, rfl⟩
    · exact ⟨_, steps_done_iff.mp hsteps, rfl⟩
  · rintro ⟨result, hrun, rfl⟩
    cases result with
    | ok s => exact .summary ⟨⟨s, hrun.steps, rfl⟩, exists_exchange_of_runs hrun⟩
    | error e => exact .other hrun.steps

theorem runs_shorten_iff :
    Runs (shorten setup budget r) t content ↔ Condensed setup budget r t content := by
  rcases le_or_gt (tokenCount r.told : Int) budget with hfits | hlong
  · rw [shorten_of_fits hfits, runs_pure]
    constructor
    · rintro ⟨rfl, rfl⟩
      exact .kept hfits
    · rintro (_ | ⟨hlong, -⟩)
      · exact ⟨rfl, rfl⟩
      · exact absurd hfits (not_le.mpr hlong)
  · rw [shorten_of_long hlong, runs_bind_pure, ← replaced_iff]
    constructor
    · exact .replaced hlong
    · rintro (hfits | ⟨-, h⟩)
      · exact absurd hfits (not_le.mpr hlong)
      · exact h

theorem runs_promptFor_iff {result : String} :
    Runs (promptFor setup s c samples) t result ↔
      ∃ shown, Compressed setup s c samples t shown ∧ result = promptWith s c shown := by
  by_cases hkept : samples = "" ∨
      (tokenCount (promptWith s c samples) : Int) ≤ setup.budget.contextLimit
  · rw [promptFor_of_kept hkept, runs_pure]
    constructor
    · rintro ⟨rfl, rfl⟩
      exact ⟨samples, .kept hkept, rfl⟩
    · rintro ⟨_, _ | ⟨hsome, hlong, -⟩, rfl⟩
      · exact ⟨rfl, rfl⟩
      · exact absurd hkept (not_or.mpr ⟨hsome, not_le.mpr hlong⟩)
  · obtain ⟨hsome, hlong⟩ := not_or.mp hkept
    rw [promptFor_of_not_kept hkept, runs_bind_pure]
    constructor
    · rintro ⟨summary, hrun, rfl⟩
      exact ⟨_, .replaced hsome (not_le.mp hlong) (replaced_iff.mpr ⟨summary, hrun, rfl⟩), rfl⟩
    · rintro ⟨shown, hkept' | ⟨-, -, h⟩, rfl⟩
      · exact absurd hkept' hkept
      · obtain ⟨summary, hrun, rfl⟩ := replaced_iff.mp h
        exact ⟨summary, hrun, rfl⟩

theorem exists_sumsUp (setup : Setup) (prompt : String) (htext : text ≠ "") (reply : String) :
    ∃ t, SumsUp setup prompt text t reply := by
  obtain ⟨t, result, hrun, hreply⟩ : ∃ t result,
      Runs (ofText setup.concurrent setup.budget prompt text 0) t result ∧
        result.map Summary.text = .ok reply := exists_runs_of_reply htext (.ok reply)
  cases result with
  | error e => cases hreply
  | ok s =>
      obtain rfl := Except.ok.inj hreply
      exact ⟨t, ⟨s, hrun.steps, rfl⟩, exists_exchange_of_runs hrun⟩

theorem ne_empty_of_long (hbudget : 0 ≤ budget) (hlong : budget < tokenCount text) : text ≠ "" := by
  rintro rfl
  exact absurd hlong (not_lt.mpr hbudget)

theorem exists_condensed (setup : Setup) (hbudget : 0 ≤ budget)
    (hlong : budget < tokenCount r.told) (reply : String) :
    ∃ t, Condensed setup budget r t reply ∧ SumsUp setup (condensePrompt r) r.told t reply := by
  obtain ⟨t, h⟩ := exists_sumsUp setup (condensePrompt r) (ne_empty_of_long hbudget hlong) reply
  exact ⟨t, .replaced hlong (.summary h), h⟩

theorem isUsable_told (h : isUsable r.content = true) : isUsable r.told = true := by
  rw [Result.told]
  split
  · have hblank : blank ("Failed: " ++ r.error.getD "None") = false := by
      simp [blank, isBlank]
    have hne : "Failed: " ++ r.error.getD "None" ≠ noTextReply := by
      intro heq
      have hhead := congrArg (List.head? ∘ String.toList) heq
      simp [noTextReply] at hhead
    simp [isUsable, hblank, hne]
  · exact h

/-- The front of a text that is too long is of use unless it is blank. -/
theorem isUsable_front (hbudget : 0 ≤ budget) (hlong : budget < tokenCount text) :
    isUsable (front text (budget * tokenLength)) = !blank (front text (budget * tokenLength)) := by
  obtain ⟨hfront, hlength⟩ := toList_front hbudget hlong
  have hne : front text (budget * tokenLength) ≠ noTextReply := by
    intro heq
    have hsize : noTextReply.toList.length = (budget * tokenLength).toNat := by
      rw [← heq, hfront, List.length_take, String.length_toList, min_eq_left hlength.le]
    have hcount : noTextReply.toList.length = 26 := by decide
    rw [hcount, tokenLength] at hsize
    omega
  simp [isUsable, hne]

theorem Condensed.eq_told (hfits : (tokenCount r.told : Int) ≤ budget)
    (h : Condensed setup budget r t content) : content = r.told := by
  rcases h with _ | ⟨hlong, -⟩
  · rfl
  · exact absurd hfits (not_le.mpr hlong)

theorem Condensed.of_not_usable (huse : isUsable r.content = true) (hbudget : 0 ≤ budget)
    (h : Condensed setup budget r t content) (hcontent : isUsable content = false) :
    SumsUp setup (condensePrompt r) r.told t content ∨
      content = front r.told (budget * tokenLength) ∧ blank content = true := by
  rcases h with _ | ⟨hlong, hsum | hfails⟩
  · rw [isUsable_told huse] at hcontent
    cases hcontent
  · exact .inl hsum
  · rw [isUsable_front hbudget hlong] at hcontent
    exact .inr ⟨rfl, by simpa using hcontent⟩

theorem Compressed.of_not_usable (h : Compressed setup s c samples t content)
    (hne : content ≠ samples) (hsome : content ≠ "") :
    SumsUp setup compressionPrompt samples t content := by
  rcases h with _ | ⟨-, -, hsum | hfails⟩
  · exact absurd rfl hne
  · exact hsum
  · exact absurd rfl hsome

end

/-- A result of use stays so on its way to the last call, whatever the model replies, only if it
keeps to its budget. Past that, a content of no use is the reply to the last call of a summary, as
it came, or a front that is blank. What takes the place of samples is nothing or such a reply, and
any text can be the reply. -/
theorem condensed_isUsable_iff {r : Result} (huse : isUsable r.content = true) {budget : Int}
    (hbudget : 1 ≤ budget) (setup : Setup) (s : Subject) (c : Category) :
    (∀ t content, Steps (shorten setup budget r) t (.done content) → isUsable content = false →
      SumsUp setup (condensePrompt r) r.told t content ∨
        content = front r.told (budget * tokenLength) ∧ blank content = true) ∧
    ((∀ t content, Steps (shorten setup budget r) t (.done content) → isUsable content = true) ↔
      (tokenCount r.told : Int) ≤ budget) ∧
    ∀ samples,
      (∀ t prompt, Steps (promptFor setup s c samples) t (.done prompt) →
        ∃ shown, prompt = promptWith s c shown ∧
          (shown ≠ samples → shown ≠ "" → SumsUp setup compressionPrompt samples t shown)) ∧
      (samples ≠ "" → setup.budget.contextLimit < tokenCount (promptWith s c samples) →
        ∀ reply, ∃ t, Steps (promptFor setup s c samples) t (.done (promptWith s c reply)) ∧
          SumsUp setup compressionPrompt samples t reply) := by
  have hpos : 0 ≤ budget := by omega
  simp only [steps_done_iff, runs_shorten_iff, runs_promptFor_iff]
  refine ⟨fun t content h => h.of_not_usable huse hpos, ⟨?_, ?_⟩, fun samples => ⟨?_, ?_⟩⟩
  · intro hall
    by_contra hlong
    obtain ⟨t, hblank, -⟩ := exists_condensed setup hpos (not_le.mp hlong) ""
    have hnone : isUsable "" = false := by decide
    exact absurd (hall t "" hblank) (by simp [hnone])
  · intro hfits t content h
    rw [h.eq_told hfits]
    exact isUsable_told huse
  · rintro t prompt ⟨shown, hshown, rfl⟩
    exact ⟨shown, rfl, hshown.of_not_usable⟩
  · intro hsome hlong reply
    obtain ⟨t, hsum⟩ := exists_sumsUp setup compressionPrompt hsome reply
    exact ⟨t, ⟨reply, .replaced hsome hlong (.summary hsum), rfl⟩, hsum⟩

def sixTokens : Result :=
  ⟨"functions", "aaaaaaaaaaaaaaaaaaaaaaaa", .ok, 1, none, some "Functions"⟩

def cramped : Setup := { threeAttempts true with budget := ⟨1, 0, 0, 5⟩ }

theorem sixTokens_not_condensed_isUsable :
    isUsable sixTokens.content = true ∧ (1 : Int) ≤ 5 ∧
      ¬ ∀ t content, Steps (shorten cramped 5 sixTokens) t (.done content) →
        isUsable content = true := by
  have huse : isUsable sixTokens.content = true := by decide
  have hlong : ¬ (tokenCount sixTokens.told : Int) ≤ 5 := by decide
  exact ⟨huse, by decide, fun hall => hlong
    ((condensed_isUsable_iff huse (by decide) cramped nothing plainFacet).2.1.mp hall)⟩

theorem steps_shorten_sixTokens (reply : String) :
    Steps (shorten cramped 5 sixTokens)
      (exchange (message (condensePrompt sixTokens) "aaaaaaaaaaaaaaaaaaaa") (.ok reply))
      (.done reply) := by
  have hlong : (5 : Int) < tokenCount sixTokens.told := by decide
  have hfront : front sixTokens.told (cramped.budget.contextLimit * tokenLength)
      = "aaaaaaaaaaaaaaaaaaaa" := by decide
  have hsum : ofText cramped.concurrent cramped.budget (condensePrompt sixTokens) sixTokens.told 0
      = ofOneCall (condensePrompt sixTokens) "aaaaaaaaaaaaaaaaaaaa" true :=
    (ofTextFrom_zero hlong).trans (by rw [hfront])
  rw [steps_done_iff, shorten_of_long hlong, runs_bind_pure, hsum]
  exact ⟨_, runs_ofOneCall.mpr ⟨.ok reply, rfl, rfl⟩, rfl⟩

/-- An empty reply takes the place of a result of use. -/
theorem exists_condensed_not_isUsable :
    ∃ t content, isUsable sixTokens.content = true ∧ (1 : Int) ≤ 5 ∧
      Steps (shorten cramped 5 sixTokens) t (.done content) ∧ isUsable content = false :=
  ⟨_, "", by decide, by decide, steps_shorten_sixTokens "", by decide⟩

end Dissect.Analysis
