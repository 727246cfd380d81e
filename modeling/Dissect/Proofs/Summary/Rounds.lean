import Dissect.Proofs.Plan.Run
import Dissect.Proofs.Summary.Chunks
import Dissect.Summary.Reduce

namespace Dissect.Summary

open Plan Text

/-- What a call shows: the message that is sent, and the reply. -/
def exchange (m : String) (reply : Except CallError String) : List (Event Call) :=
  [.begun (.ask m), .answered (.ask m) reply]

def useOf : Except CallError String → Option String
  | .error _ => none
  | .ok reply => if isUsable reply then some reply else none

/-- The chunks of a text in order, each with the reply about it. -/
structure Round where
  calls : List (String × Except CallError String)

namespace Round

def bodies (r : Round) : List String := r.calls.map Prod.fst

def usable (r : Round) : List String := r.calls.filterMap fun c => useOf c.2

def joined (r : Round) : String := "\n\n".intercalate r.usable

def dropped (r : Round) : Nat := r.calls.length - r.usable.length

/-- The calls of the round show events; which call gets on when is open. -/
def Shows (r : Round) (t : List (Event Call)) : Prop :=
  Woven (r.calls.map fun c => exchange (message partPrompt c.1) c.2) t

end Round

theorem runs_ask_bind {α : Type} {m : String} {f : Except CallError String → Plan Call α}
    {g : Except CallError String → α} (hf : ∀ reply, f reply = pure (g reply))
    {t : List (Event Call)} {r : α} :
    Runs (ask m >>= f) t r ↔ ∃ reply, t = exchange m reply ∧ r = g reply := by
  rw [runs_bind]
  constructor
  · rintro ⟨reply, u, v, rfl, hask, hrest⟩
    obtain rfl := runs_perform.mp hask
    rw [hf] at hrest
    obtain ⟨rfl, rfl⟩ := runs_pure.mp hrest
    exact ⟨reply, rfl, rfl⟩
  · rintro ⟨reply, rfl, rfl⟩
    refine ⟨reply, _, [], (List.append_nil _).symm, runs_perform.mpr rfl, ?_⟩
    rw [hf]
    exact runs_pure.mpr ⟨rfl, rfl⟩

theorem runs_ofPart {chunk : String} {t : List (Event Call)} {use : Option String} :
    Runs (ofPart chunk) t use ↔
      ∃ reply, t = exchange (message partPrompt chunk) reply ∧ use = useOf reply := by
  refine runs_ask_bind fun reply => ?_
  cases reply <;> rfl

theorem runs_ofOneCall {prompt text : String} {degraded : Bool} {t : List (Event Call)}
    {result : Except CallError Summary} :
    Runs (ofOneCall prompt text degraded) t result ↔
      ∃ reply, t = exchange (message prompt text) reply ∧
        result = reply.map fun s => ⟨s, 1, 1, 0, degraded⟩ := by
  refine runs_ask_bind fun reply => ?_
  cases reply <;> rfl

theorem runsEach_ofPart_iff {parts : List String}
    {runs : List (List (Event Call) × Option String)} :
    RunsEach (parts.map ofPart) runs ↔ ∃ r : Round, r.bodies = parts ∧
      runs = r.calls.map fun c => (exchange (message partPrompt c.1) c.2, useOf c.2) := by
  induction parts generalizing runs with
  | nil =>
      constructor
      · rintro ⟨⟩
        exact ⟨⟨[]⟩, rfl, rfl⟩
      · rintro ⟨⟨calls⟩, hbodies, rfl⟩
        obtain rfl := List.map_eq_nil_iff.mp hbodies
        exact .nil
  | cons part parts ih =>
      constructor
      · rintro (_ | ⟨hpart, hrest⟩)
        obtain ⟨⟨calls⟩, rfl, rfl⟩ := ih.mp hrest
        obtain ⟨reply, hshown, huse⟩ := runs_ofPart.mp hpart
        exact ⟨⟨(part, reply) :: calls⟩, rfl, by rw [List.map_cons, ← hshown, ← huse]⟩
      · rintro ⟨⟨calls⟩, hbodies, rfl⟩
        obtain ⟨⟨_, reply⟩, calls, rfl, rfl, hrest⟩ := List.map_eq_cons_iff.mp hbodies
        exact .cons (runs_ofPart.mpr ⟨reply, rfl, rfl⟩) (ih.mpr ⟨⟨calls⟩, hrest, rfl⟩)

theorem exists_round_of_runs_fanOut {concurrent : Bool} {parts : List String}
    {t : List (Event Call)} {results : List (Option String)}
    (h : Runs (fanOut concurrent (parts.map ofPart)) t results) :
    ∃ r : Round, r.bodies = parts ∧ r.Shows t ∧ results = r.calls.map fun c => useOf c.2 := by
  obtain ⟨runs, hruns, hwoven, rfl⟩ := exists_of_runs_fanOut h
  obtain ⟨r, hbodies, rfl⟩ := runsEach_ofPart_iff.mp hruns
  rw [List.map_map] at hwoven
  exact ⟨r, hbodies, hwoven, List.map_map⟩

theorem runs_fanOut_of_round {r : Round} {t : List (Event Call)} (h : r.Shows t) :
    Runs (fanOut true (r.bodies.map ofPart)) t (r.calls.map fun c => useOf c.2) := by
  refine runs_together.mpr ⟨_, runsEach_ofPart_iff.mpr ⟨r, rfl, rfl⟩, ?_, ?_⟩
  · rw [List.map_map]
    exact h
  · rw [List.map_map]
    rfl

section

variable {concurrent : Bool} {b : Budget} {left : Nat} {depth : Int} {prompt text : String}
  {t : List (Event Call)} {result : Except CallError Summary}

theorem ofTextFrom_of_fits (h : (tokenCount text : Int) ≤ b.contextLimit) :
    ofTextFrom concurrent b left depth prompt text = ofOneCall prompt text false := by
  cases left <;> rw [ofTextFrom, if_pos h]

theorem ofTextFrom_zero (h : b.contextLimit < tokenCount text) :
    ofTextFrom concurrent b 0 depth prompt text
      = ofOneCall prompt (front text (b.contextLimit * tokenLength)) true := by
  rw [ofTextFrom, if_neg (not_le.mpr h)]

/-- What follows a round whose replies are joined: another level if they do not fit a call. -/
def afterRound (concurrent : Bool) (b : Budget) (left : Nat) (depth : Int)
    (prompt joined : String) : Plan Call (Except CallError Summary) :=
  if b.contextLimit < tokenCount joined then
    ofTextFrom concurrent b left (depth + 1) (message nextLevelPrompt prompt) joined
  else ofOneCall prompt joined false

def reduce (concurrent : Bool) (b : Budget) (left : Nat) (depth : Int) (prompt : String)
    (results : List (Option String)) (count : Nat) : Plan Call (Except CallError Summary) :=
  if (results.filterMap id).isEmpty then pure (.error (allFailed count depth))
  else do
    let inner ← afterRound concurrent b left depth prompt
      ("\n\n".intercalate (results.filterMap id))
    return inner.map (reduced · count (count - (results.filterMap id).length))

theorem ofTextFrom_succ (h : b.contextLimit < tokenCount text) :
    ofTextFrom concurrent b (left + 1) depth prompt text =
      (fanOut concurrent ((chunks text b.chunkSize b.overlapSize).map ofPart) >>= fun results =>
        reduce concurrent b left depth prompt results
          (chunks text b.chunkSize b.overlapSize).length) := by
  rw [ofTextFrom, if_neg (not_le.mpr h)]
  refine congrArg (bind _) (funext fun results => ?_)
  simp only [reduce, afterRound]
  split
  · rfl
  · split <;> rfl

/-- How a run of a level goes on after its round. -/
def GoesOn (concurrent : Bool) (b : Budget) (left : Nat) (depth : Int) (prompt : String) (r : Round)
    (t : List (Event Call)) (result : Except CallError Summary) : Prop :=
  (r.usable = [] ∧ t = [] ∧ result = .error (allFailed r.calls.length depth)) ∨
    (r.usable ≠ [] ∧ ∃ inner, Runs (afterRound concurrent b left depth prompt r.joined) t inner ∧
      result = inner.map (reduced · r.calls.length r.dropped))

theorem runs_reduce {r : Round} :
    Runs (reduce concurrent b left depth prompt (r.calls.map fun c => useOf c.2) r.calls.length) t
        result ↔ GoesOn concurrent b left depth prompt r t result := by
  have husable : (r.calls.map fun c => useOf c.2).filterMap id = r.usable := by
    rw [List.filterMap_map]
    rfl
  rw [reduce, husable, GoesOn]
  by_cases hnone : r.usable = []
  · rw [if_pos (by rw [hnone]; rfl), runs_pure]
    simp [hnone]
  · rw [if_neg (by rwa [List.isEmpty_iff]), runs_bind]
    simp only [hnone, false_and, false_or, ne_eq, not_false_eq_true, true_and]
    constructor
    · rintro ⟨inner, u, v, rfl, hinner, hresult⟩
      obtain ⟨rfl, rfl⟩ := runs_pure.mp hresult
      exact ⟨inner, by rwa [List.append_nil], rfl⟩
    · rintro ⟨inner, hinner, rfl⟩
      exact ⟨inner, t, [], (List.append_nil t).symm, hinner, runs_pure.mpr ⟨rfl, rfl⟩⟩

theorem exists_round_of_runs (h : b.contextLimit < tokenCount text)
    (hrun : Runs (ofTextFrom concurrent b (left + 1) depth prompt text) t result) :
    ∃ r u v, r.bodies = chunks text b.chunkSize b.overlapSize ∧ r.Shows u ∧ t = u ++ v ∧
      GoesOn concurrent b left depth prompt r v result := by
  rw [ofTextFrom_succ h] at hrun
  obtain ⟨results, u, v, rfl, hmap, hrest⟩ := runs_bind.mp hrun
  obtain ⟨r, hbodies, hshows, rfl⟩ := exists_round_of_runs_fanOut hmap
  rw [← hbodies, Round.bodies, List.length_map] at hrest
  exact ⟨r, u, v, hbodies, hshows, rfl, runs_reduce.mp hrest⟩

theorem runs_of_round (h : b.contextLimit < tokenCount text) {r : Round} {u v : List (Event Call)}
    (hbodies : r.bodies = chunks text b.chunkSize b.overlapSize) (hshows : r.Shows u)
    (hrest : GoesOn true b left depth prompt r v result) :
    Runs (ofTextFrom true b (left + 1) depth prompt text) (u ++ v) result := by
  rw [ofTextFrom_succ h, ← hbodies]
  refine runs_bind.mpr ⟨_, u, v, rfl, runs_fanOut_of_round hshows, ?_⟩
  rw [Round.bodies, List.length_map]
  exact runs_reduce.mpr hrest

end

end Dissect.Summary
