import Dissect.Proofs.Plan.Run

namespace Dissect.Plan

variable {Act Act' : Type → Type 1} {α β : Type}

def Event.lift (f : {β : Type} → Act β → Act' β) : Event Act → Event Act'
  | .begun x => .begun (f x)
  | .answered x b => .answered (f x) b

variable {f : {β : Type} → Act β → Act' β}

theorem lift_eq_done {p : Plan Act α} {a : α} (h : lift f p = .done a) : p = .done a := by
  cases p with
  | done b =>
      rw [lift] at h
      cases h
      rfl
  | act | awaiting | all | within =>
      rw [lift] at h
      cases h

/-- The lifted plan takes the steps of the plan. -/
def StepsLift (f : {β : Type} → Act β → Act' β) (p : Plan Act α) : Prop :=
  ∀ {e : Option (Event Act')} {q : Plan Act' α}, Step (lift f p) e q →
    ∃ (e' : Option (Event Act)) (q' : Plan Act α),
      Step p e' q' ∧ e = e'.map (Event.lift f) ∧ q = lift f q'

theorem stepsLift_all {n : Nat} {branches : Fin n → Plan Act β} {k : List β → Plan Act α}
    (ih : ∀ i, StepsLift f (branches i)) : StepsLift f (.all n branches k) := by
  intro e q h
  rw [lift] at h
  -- a step is taken by branches that are any plans, so these are first named as such
  generalize hp : (fun i => lift f (branches i)) = ps at h
  cases h with
  | @branch _ _ _ _ _ i _ m hbranch =>
      subst hp
      obtain ⟨e', m', hstep, rfl, rfl⟩ := ih i hbranch
      refine ⟨e', _, .branch hstep, rfl, ?_⟩
      rw [lift]
      congr 1
      funext j
      rcases eq_or_ne j i with rfl | hne
      · rw [Function.update_self, Function.update_self]
      · rw [Function.update_of_ne hne, Function.update_of_ne hne]
  | join bs =>
      have hdone : branches = fun i => .done (bs i) :=
        funext fun i => lift_eq_done (congrFun hp i)
      subst hdone
      exact ⟨none, _, .join bs k, rfl, rfl⟩

theorem stepsLift_within {limit : Float} {body : Plan Act β} {k : Option β → Plan Act α}
    (ih : StepsLift f body) : StepsLift f (.within limit body k) := by
  intro e q h
  rw [lift] at h
  generalize hp : lift f body = p at h
  cases h with
  | inside hbody =>
      subst hp
      obtain ⟨e', m', hstep, rfl, rfl⟩ := ih hbody
      exact ⟨e', _, .inside hstep, rfl, rfl⟩
  | inTime b =>
      obtain rfl := lift_eq_done hp
      exact ⟨none, _, .inTime limit _ k, rfl, rfl⟩
  | tooLate =>
      subst hp
      exact ⟨none, _, .tooLate limit body k, rfl, rfl⟩

theorem stepsLift (f : {β : Type} → Act β → Act' β) (p : Plan Act α) : StepsLift f p := by
  induction p with
  | done a =>
      intro e q h
      rw [lift] at h
      cases h
  | act x k =>
      intro e q h
      rw [lift] at h
      cases h
      exact ⟨_, _, .begin x k, rfl, rfl⟩
  | awaiting x k =>
      intro e q h
      rw [lift] at h
      cases h
      exact ⟨_, _, .answer x k _, rfl, rfl⟩
  | all n branches k ihBranches => exact stepsLift_all ihBranches
  | within limit body k ihBody => exact stepsLift_within ihBody

theorem exists_of_steps_lift {p : Plan Act α} {t : List (Event Act')} {q : Plan Act' α}
    (h : Steps (lift f p) t q) :
    ∃ (t' : List (Event Act)) (q' : Plan Act α),
      Steps p t' q' ∧ t = t'.map (Event.lift f) ∧ q = lift f q' := by
  generalize hp : lift f p = p₀ at h
  induction h generalizing p with
  | refl p₀ => exact ⟨[], p, .refl p, rfl, hp.symm⟩
  | head first rest ih =>
      subst hp
      obtain ⟨e', m, hstep, rfl, rfl⟩ := stepsLift f p first
      obtain ⟨t', q', hsteps, rfl, rfl⟩ := ih rfl
      refine ⟨_, q', .head hstep hsteps, ?_, rfl⟩
      cases e' <;> rfl

theorem exists_of_runs_lift {p : Plan Act α} {t : List (Event Act')} {r : α}
    (h : Runs (lift f p) t r) :
    ∃ t' : List (Event Act), Runs p t' r ∧ t = t'.map (Event.lift f) := by
  obtain ⟨t', q', hsteps, ht, hq⟩ := exists_of_steps_lift h.steps
  obtain rfl := lift_eq_done hq.symm
  exact ⟨t', steps_done_iff.mp hsteps, ht⟩

end Dissect.Plan
