import Dissect.Proofs.Plan.Settled
import Dissect.Proofs.Summary.Bounds

namespace Dissect

open Plan Summary

def gap (seconds : Float) : List (Event Call) :=
  [.begun (.pause seconds), .answered (.pause seconds) ()]

def paused (t : List (Event Call)) : List Float :=
  t.filterMap fun
    | .begun (.pause seconds) => some seconds
    | _ => none

/-- The replies are those of a model that goes by the prompt alone. -/
def AnsweredBy (model : String → Except CallError String) (t : List (Event Call)) : Prop :=
  ∀ (m : String) (reply : Except CallError String), .answered (.ask m) reply ∈ t → reply = model m

def answerBy (model : String → Except CallError String) : ∀ β : Type, Call β → β
  | _, .ask m => model m
  | _, .pause _ => ()

variable {model : String → Except CallError String}

theorem follows_answerBy {t : List (Event Call)} :
    Follows (answerBy model) t ↔ AnsweredBy model t := by
  constructor
  · intro h m reply hreply
    exact h _ (.ask m) reply hreply
  · intro h β x b hb
    cases x with
    | ask m => exact h m b hb
    | pause seconds => rfl

theorem paused_append (t u : List (Event Call)) : paused (t ++ u) = paused t ++ paused u :=
  List.filterMap_append

theorem paused_flatten (ts : List (List (Event Call))) :
    paused ts.flatten = (ts.map paused).flatten :=
  List.filterMap_flatten ..

theorem paused_exchange (m : String) (reply : Except CallError String) :
    paused (exchange m reply) = [] :=
  rfl

theorem paused_gap (seconds : Float) : paused (gap seconds) = [seconds] :=
  rfl

theorem sent_gap (seconds : Float) : sent (gap seconds) = [] :=
  rfl

theorem settles_ask (m : String) :
    Settles (answerBy model) (ask m) (exchange m (model m)) (model m) :=
  settles_perform (Call.ask m)

theorem settles_pause (seconds : Float) :
    Settles (answerBy model) (pause seconds) (gap seconds) () :=
  settles_perform (Call.pause seconds)

theorem settles_of_exchange {α : Type} {p : Plan Call α} {m : String}
    {g : Except CallError String → α}
    (h : ∀ {t r}, Runs p t r → ∃ reply, t = exchange m reply ∧ r = g reply) :
    Settles (answerBy model) p (exchange m (model m)) (g (model m)) := by
  intro t r hrun hfollows
  obtain ⟨reply, rfl, rfl⟩ := h hrun
  obtain rfl := follows_answerBy.mp hfollows m reply (by simp [exchange])
  exact ⟨rfl, .refl _⟩

end Dissect
