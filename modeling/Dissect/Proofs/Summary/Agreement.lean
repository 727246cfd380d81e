import Dissect.Proofs.Call.Replies
import Dissect.Proofs.Summary.Totals

namespace Dissect.Summary

open Plan Text

variable {model : String → Except CallError String} {b : Budget}

def Round.answered (model : String → Except CallError String) (parts : List String) : Round :=
  ⟨parts.map fun part => (part, model (message partPrompt part))⟩

theorem settles_ofPart (part : String) :
    Settles (answerBy model) (ofPart part)
      (exchange (message partPrompt part) (model (message partPrompt part)))
      (useOf (model (message partPrompt part))) :=
  settles_of_exchange runs_ofPart.mp

theorem exists_settles_of_oneCall {p : Bool → Plan Call (Except CallError Summary)}
    {prompt text : String} {degraded : Bool}
    (h : ∀ concurrent, p concurrent = ofOneCall prompt text degraded) :
    ∃ s result, paused s = [] ∧ ∀ concurrent, Settles (answerBy model) (p concurrent) s result := by
  refine ⟨exchange (message prompt text) (model (message prompt text)),
    (model (message prompt text)).map fun s => ⟨s, 1, 1, 0, degraded⟩, paused_exchange _ _, ?_⟩
  intro concurrent
  rw [h concurrent]
  exact settles_of_exchange runs_ofOneCall.mp

theorem settles_round (concurrent : Bool) (parts : List String) :
    Settles (answerBy model) (fanOut concurrent (parts.map ofPart))
      (Round.answered model parts).inTurn
      ((Round.answered model parts).calls.map fun c => useOf c.2) := by
  have heach : SettleEach (answerBy model) (parts.map ofPart)
      ((Round.answered model parts).calls.map fun c =>
        (exchange (message partPrompt c.1) c.2, useOf c.2)) := by
    rw [SettleEach, Round.answered, List.map_map, List.forall₂_map_left_iff,
      List.forall₂_map_right_iff, List.forall₂_same]
    exact fun part _ => settles_ofPart part
  have hall := heach.fanOut concurrent
  rwa [List.map_map, List.map_map] at hall

theorem Round.paused_inTurn (r : Round) : paused r.inTurn = [] := by
  obtain ⟨calls⟩ := r
  simp only [inTurn]
  induction calls with
  | nil => rfl
  | cons c calls ih =>
      rw [List.map_cons, List.flatten_cons, paused_append, paused_exchange, ih, List.append_nil]

theorem exists_settles_reduce {left : Nat} {depth : Int} {prompt : String}
    (hlevel : ∀ text, ∃ s result, paused s = [] ∧ ∀ concurrent, Settles (answerBy model)
      (ofTextFrom concurrent b left (depth + 1) (message nextLevelPrompt prompt) text) s result)
    (r : Round) :
    ∃ s result, paused s = [] ∧ ∀ concurrent, Settles (answerBy model)
      (reduce concurrent b left depth prompt (r.calls.map fun c => useOf c.2) r.calls.length)
      s result := by
  by_cases hnone : r.usable = []
  · refine ⟨[], .error (allFailed r.calls.length depth), rfl, fun concurrent t result hrun _ => ?_⟩
    rcases runs_reduce.mp hrun with ⟨-, rfl, rfl⟩ | ⟨hsome, -⟩
    · exact ⟨rfl, .refl _⟩
    · exact absurd hnone hsome
  · have hafter : ∃ s inner, paused s = [] ∧ ∀ concurrent, Settles (answerBy model)
        (afterRound concurrent b left depth prompt r.joined) s inner := by
      rcases le_or_gt (tokenCount r.joined : Int) b.contextLimit with hfits | hlong
      · exact exists_settles_of_oneCall fun _ => if_neg (not_lt.mpr hfits)
      · obtain ⟨s, inner, hpaused, hsettles⟩ := hlevel r.joined
        refine ⟨s, inner, hpaused, fun concurrent => ?_⟩
        rw [afterRound, if_pos hlong]
        exact hsettles concurrent
    obtain ⟨s, inner, hpaused, hsettles⟩ := hafter
    refine ⟨s, inner.map (reduced · r.calls.length r.dropped), hpaused, ?_⟩
    intro concurrent t result hrun hfollows
    rcases runs_reduce.mp hrun with ⟨hnone', -⟩ | ⟨-, inner', hinner, rfl⟩
    · exact absurd hnone' hnone
    · obtain ⟨rfl, hperm⟩ := hsettles concurrent hinner hfollows
      exact ⟨rfl, hperm⟩

/-- At every level a summary settles, in the same way side by side and in turn, and without a pause.
-/
theorem exists_settles_ofTextFrom (model : String → Except CallError String) (b : Budget)
    (left : Nat) (depth : Int) (prompt text : String) :
    ∃ s result, paused s = [] ∧ ∀ concurrent, Settles (answerBy model)
      (ofTextFrom concurrent b left depth prompt text) s result := by
  induction left generalizing depth prompt text with
  | zero =>
      rcases le_or_gt (tokenCount text : Int) b.contextLimit with hfits | hlong
      · exact exists_settles_of_oneCall fun _ => ofTextFrom_of_fits hfits
      · exact exists_settles_of_oneCall fun _ => ofTextFrom_zero hlong
  | succ left ih =>
      rcases le_or_gt (tokenCount text : Int) b.contextLimit with hfits | hlong
      · exact exists_settles_of_oneCall fun _ => ofTextFrom_of_fits hfits
      · let r := Round.answered model (chunks text b.chunkSize b.overlapSize)
        obtain ⟨s, result, hpaused, hsettles⟩ :=
          exists_settles_reduce (ih (depth + 1) (message nextLevelPrompt prompt)) r
        refine ⟨r.inTurn ++ s, result, ?_, fun concurrent => ?_⟩
        · rw [paused_append, r.paused_inTurn, hpaused, List.nil_append]
        · have hcount : r.calls.length = (chunks text b.chunkSize b.overlapSize).length :=
            List.length_map _
          rw [ofTextFrom_succ hlong, ← hcount]
          exact (settles_round concurrent _).bind (hsettles concurrent)

theorem exists_settles_ofText (model : String → Except CallError String) (b : Budget)
    (prompt text : String) (depth : Int) :
    ∃ s result, paused s = [] ∧ ∀ concurrent, Settles (answerBy model)
      (ofText concurrent b prompt text depth) s result :=
  exists_settles_ofTextFrom model b (b.recursionLimit - depth).toNat depth prompt text

/-- With a model that goes by the prompt alone, a summary has one result and sends the same messages,
whether its calls run side by side or in turn and in whatever order they end. -/
theorem ofText_same_in_any_order (model : String → Except CallError String) (b : Budget)
    (prompt text : String) (depth : Int) :
    ∃ result messages, ∀ concurrent,
      (ofText concurrent b prompt text depth).Halts ∧
      (∃ t, Steps (ofText concurrent b prompt text depth) t (.done result) ∧
        AnsweredBy model t) ∧
      ∀ t r, Steps (ofText concurrent b prompt text depth) t (.done r) → AnsweredBy model t →
        r = result ∧ (sent t).Perm messages := by
  obtain ⟨s, result, -, hsettles⟩ := exists_settles_ofText model b prompt text depth
  refine ⟨result, sent s, fun concurrent => ⟨halts nonempty_answer _, ?_, ?_⟩⟩
  · obtain ⟨t, hrun, hfollows⟩ := (hsettles concurrent).exists_runs
    exact ⟨t, hrun.steps, follows_answerBy.mp hfollows⟩
  · intro t r hsteps hanswered
    obtain ⟨rfl, hperm⟩ :=
      hsettles concurrent (steps_done_iff.mp hsteps) (follows_answerBy.mpr hanswered)
    exact ⟨rfl, hperm.filterMap _⟩

end Dissect.Summary
