import Dissect.Proofs.Plan.Run

/-!
Plans whose actions are answered by a function of the action. Such a plan has a run; where it
settles, all its runs come to one result and show the same events, in whatever order its branches
get on.
-/

namespace Dissect.Plan

variable {Act : Type → Type 1} {α β : Type} {f : ∀ β : Type, Act β → β}

/-- The answers are those of a function of the action. -/
def Follows (f : ∀ β : Type, Act β → β) (t : List (Event Act)) : Prop :=
  ∀ (β : Type) (x : Act β) (b : β), .answered x b ∈ t → b = f β x

theorem Follows.of_subset {t u : List (Event Act)} (h : Follows f t) (hsub : u ⊆ t) :
    Follows f u :=
  fun β x b hb => h β x b (hsub hb)

theorem follows_append {t u : List (Event Act)} :
    Follows f (t ++ u) ↔ Follows f t ∧ Follows f u := by
  constructor
  · intro h
    exact ⟨h.of_subset (List.subset_append_left t u), h.of_subset (List.subset_append_right t u)⟩
  · rintro ⟨ht, hu⟩ γ x b hb
    rcases List.mem_append.mp hb with hb | hb
    · exact ht γ x b hb
    · exact hu γ x b hb

theorem follows_flatten {ts : List (List (Event Act))} :
    Follows f ts.flatten ↔ ∀ t ∈ ts, Follows f t := by
  constructor
  · intro h t ht
    exact h.of_subset (List.sublist_flatten_of_mem ht).subset
  · intro h γ x b hb
    obtain ⟨t, ht, hmem⟩ := List.mem_flatten.mp hb
    exact h t ht γ x b hmem

theorem follows_answered {x : Act β} {u : List (Event Act)} (h : Follows f u) :
    Follows f (.answered x (f β x) :: u) := by
  intro γ y b hb
  rcases List.mem_cons.mp hb with heq | hb
  · cases heq
    rfl
  · exact h γ y b hb

theorem follows_begun {x : Act β} {u : List (Event Act)} (h : Follows f u) :
    Follows f (.begun x :: u) := by
  intro γ y b hb
  rcases List.mem_cons.mp hb with heq | hb
  · cases heq
  · exact h γ y b hb

theorem exists_runs_follows (f : ∀ β : Type, Act β → β) (p : Plan Act α) :
    ∃ t r, Runs p t r ∧ Follows f t := by
  induction p with
  | done a => exact ⟨[], a, ⟨rfl, rfl⟩, fun _ _ _ hb => nomatch hb⟩
  | @act α β x k ih =>
      obtain ⟨u, r, hrun, hfollows⟩ := ih (f β x)
      exact ⟨_, r, ⟨f β x, u, rfl, hrun⟩, follows_begun (follows_answered hfollows)⟩
  | @awaiting α β x k ih =>
      obtain ⟨u, r, hrun, hfollows⟩ := ih (f β x)
      exact ⟨_, r, ⟨f β x, u, rfl, hrun⟩, follows_answered hfollows⟩
  | all n branches k ihBranches ih =>
      choose ts bs hbranches hfollows using ihBranches
      obtain ⟨u, r, hrun, hrest⟩ := ih (List.ofFn bs)
      refine ⟨_, r, ⟨ts, bs, _, u, hbranches, .flatten _, rfl, hrun⟩, ?_⟩
      refine follows_append.mpr ⟨follows_flatten.mpr fun t ht => ?_, hrest⟩
      obtain ⟨i, rfl⟩ := List.mem_ofFn.mp ht
      exact hfollows i
  | within limit body k ihBody ih =>
      obtain ⟨w, b, hbody, hw⟩ := ihBody
      obtain ⟨u, r, hrun, hu⟩ := ih (some b)
      exact ⟨w ++ u, r, ⟨w, u, rfl, .inl ⟨b, hbody, hrun⟩⟩, follows_append.mpr ⟨hw, hu⟩⟩

/-- All runs of the plan with the answers of a function come to one result and show the same events,
each as often. -/
def Settles (f : ∀ β : Type, Act β → β) (p : Plan Act α) (s : List (Event Act)) (a : α) : Prop :=
  ∀ ⦃t r⦄, Runs p t r → Follows f t → r = a ∧ t.Perm s

def SettleEach (f : ∀ β : Type, Act β → β) (ps : List (Plan Act α))
    (runs : List (List (Event Act) × α)) : Prop :=
  List.Forall₂ (fun p run => Settles f p run.1 run.2) ps runs

theorem Settles.exists_runs {p : Plan Act α} {s : List (Event Act)} {a : α}
    (h : Settles f p s a) : ∃ t, Runs p t a ∧ Follows f t := by
  obtain ⟨t, r, hrun, hfollows⟩ := exists_runs_follows f p
  obtain ⟨rfl, -⟩ := h hrun hfollows
  exact ⟨t, hrun, hfollows⟩

theorem Settles.of_perm {p : Plan Act α} {s u : List (Event Act)} {a : α} (h : Settles f p s a)
    (hperm : s.Perm u) : Settles f p u a := by
  intro t r hrun hfollows
  obtain ⟨rfl, ht⟩ := h hrun hfollows
  exact ⟨rfl, ht.trans hperm⟩

theorem settles_pure (a : α) : Settles f (pure a : Plan Act α) [] a := by
  rintro t r ⟨rfl, rfl⟩ -
  exact ⟨rfl, .refl _⟩

theorem settles_perform (x : Act α) :
    Settles f (perform x) [.begun x, .answered x (f α x)] (f α x) := by
  intro t r hrun hfollows
  obtain rfl := runs_perform.mp hrun
  obtain rfl := hfollows α x r (by simp)
  exact ⟨rfl, .refl _⟩

theorem Settles.bind {p : Plan Act α} {k : α → Plan Act β} {s u : List (Event Act)} {a : α} {b : β}
    (hp : Settles f p s a) (hk : Settles f (k a) u b) : Settles f (p >>= k) (s ++ u) b := by
  intro t r hrun hfollows
  obtain ⟨a', s', u', rfl, hfirst, hrest⟩ := runs_bind.mp hrun
  obtain ⟨hs, hu⟩ := follows_append.mp hfollows
  obtain ⟨rfl, hpermFirst⟩ := hp hfirst hs
  obtain ⟨rfl, hpermRest⟩ := hk hrest hu
  exact ⟨rfl, hpermFirst.append hpermRest⟩

theorem Settles.bind_pure {p : Plan Act α} {k : α → Plan Act β} {s : List (Event Act)} {a : α}
    {b : β} (hp : Settles f p s a) (hk : k a = pure b) : Settles f (p >>= k) s b := by
  have hend := settles_pure (f := f) b
  rw [← hk] at hend
  have hall := hp.bind hend
  rwa [List.append_nil] at hall

theorem SettleEach.perm {ps : List (Plan Act α)} {runs runs' : List (List (Event Act) × α)}
    (h : SettleEach f ps runs) (hruns : RunsEach ps runs')
    (hfollows : Follows f (runs'.map Prod.fst).flatten) :
    runs'.map Prod.snd = runs.map Prod.snd ∧
      (runs'.map Prod.fst).flatten.Perm (runs.map Prod.fst).flatten := by
  induction h generalizing runs' with
  | nil =>
      obtain rfl := List.forall₂_nil_left_iff.mp hruns
      exact ⟨rfl, .refl _⟩
  | cons hp hps ih =>
      obtain ⟨run, rest, hrun, hrest, rfl⟩ := List.forall₂_cons_left_iff.mp hruns
      obtain ⟨hfirst, hlater⟩ := follows_append.mp hfollows
      obtain ⟨hresult, hperm⟩ := hp hrun hfirst
      obtain ⟨hresults, hperms⟩ := ih hrest hlater
      exact ⟨congrArg₂ List.cons hresult hresults, hperm.append hperms⟩

/-- Where each plan of several families settles, and in the same way in all of them, the plans have
runs to settle in. -/
theorem exists_settleEach {ι γ : Type} {xs : List ι} {p : γ → ι → Plan Act α}
    {P : List (Event Act) → α → Prop}
    (h : ∀ x ∈ xs, ∃ s a, P s a ∧ ∀ c, Settles f (p c x) s a) :
    ∃ runs : List (List (Event Act) × α), (∀ run ∈ runs, P run.1 run.2) ∧
      ∀ c, SettleEach f (xs.map (p c)) runs := by
  induction xs with
  | nil => exact ⟨[], by simp, fun _ => .nil⟩
  | cons x xs ih =>
      obtain ⟨⟨s, a, hP, hsettles⟩, hrest⟩ := List.forall_mem_cons.mp h
      obtain ⟨runs, hall, heach⟩ := ih hrest
      exact ⟨(s, a) :: runs, List.forall_mem_cons.mpr ⟨hP, hall⟩,
        fun c => .cons (hsettles c) (heach c)⟩

theorem SettleEach.fanOut {ps : List (Plan Act α)} {runs : List (List (Event Act) × α)}
    (h : SettleEach f ps runs) (concurrent : Bool) :
    Settles f (fanOut concurrent ps) (runs.map Prod.fst).flatten (runs.map Prod.snd) := by
  intro t r hrun hfollows
  obtain ⟨runs', hruns, hwoven, rfl⟩ := exists_of_runs_fanOut hrun
  obtain ⟨hresults, hperm⟩ := h.perm hruns (hfollows.of_subset hwoven.perm.symm.subset)
  exact ⟨hresults, hwoven.perm.trans hperm⟩

end Dissect.Plan
