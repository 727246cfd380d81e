import Dissect.Plan
import Mathlib.Data.DFinsupp.WellFounded
import Mathlib.Data.Finset.Piecewise

/-!
Plans carried out step by step. Branches side by side take their steps in any order, an action may
be answered in any way, and a time limit may pass at any moment. Whatever happens, every run ends.
-/

namespace Dissect.Plan

variable {Act : Type → Type 1} {α β : Type}

/-- What a run of a plan shows: an action is begun, or its answer comes. -/
inductive Event (Act : Type → Type 1) : Type 1
  | begun {β : Type} (x : Act β) : Event Act
  | answered {β : Type} (x : Act β) (b : β) : Event Act

/-- One step of a plan, with the event it shows, if any. -/
inductive Step : {α : Type} → Plan Act α → Option (Event Act) → Plan Act α → Prop
  | begin {α β : Type} (x : Act β) (k : β → Plan Act α) :
      Step (.act x k) (some (.begun x)) (.awaiting x k)
  | answer {α β : Type} (x : Act β) (k : β → Plan Act α) (b : β) :
      Step (.awaiting x k) (some (.answered x b)) (k b)
  | branch {α β : Type} {n : Nat} {branches : Fin n → Plan Act β} {k : List β → Plan Act α}
      {i : Fin n} {e : Option (Event Act)} {q : Plan Act β} (h : Step (branches i) e q) :
      Step (.all n branches k) e (.all n (Function.update branches i q) k)
  | join {α β : Type} {n : Nat} (bs : Fin n → β) (k : List β → Plan Act α) :
      Step (.all n (fun i => .done (bs i)) k) none (k (List.ofFn bs))
  | inside {α β : Type} {limit : Float} {body q : Plan Act β} {k : Option β → Plan Act α}
      {e : Option (Event Act)} (h : Step body e q) :
      Step (.within limit body k) e (.within limit q k)
  | inTime {α β : Type} (limit : Float) (b : β) (k : Option β → Plan Act α) :
      Step (.within limit (.done b) k) none (k (some b))
  | tooLate {α β : Type} (limit : Float) (body : Plan Act β) (k : Option β → Plan Act α) :
      Step (.within limit body k) none (k none)

inductive Steps : Plan Act α → List (Event Act) → Plan Act α → Prop
  | refl (p : Plan Act α) : Steps p [] p
  | head {p q r : Plan Act α} {e : Option (Event Act)} {t : List (Event Act)}
      (first : Step p e q) (rest : Steps q t r) : Steps p (e.toList ++ t) r

namespace Steps

variable {p q r : Plan Act α} {t u : List (Event Act)}

theorem single {e : Option (Event Act)} (h : Step p e q) : Steps p e.toList q := by
  have := head h (refl q)
  rwa [List.append_nil] at this

theorem trans (h : Steps p t q) (h' : Steps q u r) : Steps p (t ++ u) r := by
  induction h with
  | refl p => exact h'
  | head first rest ih =>
      rw [List.append_assoc]
      exact head first (ih h')

theorem exists_of_cons {e : Event Act} (h : Steps p (e :: t) r) :
    ∃ q, Steps p [e] q ∧ Steps q t r := by
  generalize ht : e :: t = u at h
  induction h with
  | refl p => simp at ht
  | @head p q r o u first rest ih =>
      cases o with
      | none =>
          obtain ⟨m, hm, hrest⟩ := ih ht
          exact ⟨m, head first hm, hrest⟩
      | some o =>
          rw [Option.toList_some, List.singleton_append, List.cons.injEq] at ht
          obtain ⟨rfl, rfl⟩ := ht
          exact ⟨q, single first, rest⟩

theorem branch {n : Nat} {branches : Fin n → Plan Act β} {k : List β → Plan Act α} {i : Fin n}
    {q : Plan Act β} (h : Steps (branches i) t q) :
    Steps (.all n branches k) t (.all n (Function.update branches i q) k) := by
  generalize hp : branches i = p at h
  induction h generalizing branches with
  | refl p =>
      rw [← hp, Function.update_eq_self]
      exact refl _
  | @head p m r e u first rest ih =>
      rw [← hp] at first
      have hrest := @ih (Function.update branches i m) (Function.update_self i m branches)
      rw [Function.update_idem] at hrest
      exact head (.branch first) hrest

theorem inside {limit : Float} {body q : Plan Act β} {k : Option β → Plan Act α}
    (h : Steps body t q) : Steps (.within limit body k) t (.within limit q k) := by
  induction h with
  | refl p => exact refl _
  | head first rest ih => exact head (.inside first) ih

theorem branches_silent {n : Nat} {ps qs : Fin n → Plan Act β} (k : List β → Plan Act α)
    (h : ∀ i, Steps (ps i) [] (qs i)) : Steps (.all n ps k) [] (.all n qs k) := by
  have hsome : ∀ s : Finset (Fin n), Steps (.all n ps k) [] (.all n (s.piecewise qs ps) k) := by
    intro s
    induction s using Finset.induction_on with
    | empty =>
        rw [Finset.piecewise_empty]
        exact refl _
    | insert i s hi ih =>
        have hstep := h i
        rw [← Finset.piecewise_eq_of_notMem s qs ps hi] at hstep
        rw [Finset.piecewise_insert]
        exact ih.trans hstep.branch
  simpa using hsome Finset.univ

end Steps

/-- The second plan takes a step to the first one. -/
def Next (q p : Plan Act α) : Prop := ∃ e, Step p e q

/-- Runs of the plan end: none goes on for ever, and one that has not come to a result goes on. -/
structure Halts (p : Plan Act α) : Prop where
  finite : ¬ ∃ f : ℕ → Plan Act α, f 0 = p ∧ ∀ n, Next (f (n + 1)) (f n)
  goesOn : ∀ t q, Steps p t q → (∃ a, q = .done a) ∨ ∃ r, Next r q

theorem acc_all {n : Nat} {branches : Fin n → Plan Act β} {k : List β → Plan Act α}
    (hbranches : ∀ i, Acc Next (branches i)) (hk : ∀ bs, Acc Next (k bs)) :
    Acc Next (.all n branches k) := by
  have hwf : WellFounded fun a b : {p : Plan Act β // Acc Next p} => Next a.1 b.1 := by
    refine ⟨fun ⟨p, hp⟩ => ?_⟩
    induction hp with
    | intro p h ih => exact Acc.intro _ fun ⟨q, hq⟩ hnext => ih q hnext
  -- A step of a branch makes the family of branches smaller in the lexicographic order.
  have hall : ∀ ps : Fin n → {p : Plan Act β // Acc Next p},
      Acc Next (.all n (fun i => (ps i).1) k) := by
    intro ps
    induction ps using (Pi.Lex.wellFounded (· < ·) fun _ : Fin n => hwf).induction with
    | _ ps ih =>
        refine Acc.intro _ ?_
        rintro _ ⟨e, hstep⟩
        generalize hp : (fun i => (ps i).1) = qs at hstep
        cases hstep with
        | branch h =>
            rename_i q i
            subst hp
            have hq : Acc Next q := (ps i).2.inv ⟨e, h⟩
            have hupdate : Function.update (fun i => (ps i).1) i q
                = fun j => (Function.update ps i ⟨q, hq⟩ j).1 := by
              funext j
              rcases eq_or_ne j i with rfl | hj
              · simp
              · simp [hj]
            rw [hupdate]
            refine ih _ ⟨i, ?_, ?_⟩
            · intro j hj
              exact Function.update_of_ne hj.ne _ _
            · rw [Function.update_self]
              exact ⟨e, h⟩
        | join bs => exact hk _
  exact hall fun i => ⟨branches i, hbranches i⟩

theorem acc_within {limit : Float} {body : Plan Act β} {k : Option β → Plan Act α}
    (hbody : Acc Next body) (hk : ∀ b, Acc Next (k b)) : Acc Next (.within limit body k) := by
  induction hbody with
  | intro body _ ih =>
      refine Acc.intro _ ?_
      rintro _ ⟨e, hstep⟩
      cases hstep with
      | inside h => exact ih _ ⟨e, h⟩
      | inTime b => exact hk _
      | tooLate => exact hk _

theorem acc_next (p : Plan Act α) : Acc Next p := by
  induction p with
  | done a => exact Acc.intro _ fun _ ⟨_, hstep⟩ => nomatch hstep
  | act x k ih =>
      refine Acc.intro _ ?_
      rintro _ ⟨e, hstep⟩
      cases hstep
      refine Acc.intro _ ?_
      rintro _ ⟨e, hstep⟩
      cases hstep
      exact ih _
  | awaiting x k ih =>
      refine Acc.intro _ ?_
      rintro _ ⟨e, hstep⟩
      cases hstep
      exact ih _
  | all n branches k ihBranches ih => exact acc_all ihBranches ih
  | within limit body k ihBody ih => exact acc_within ihBody ih

theorem done_or_next (hanswer : ∀ {β : Type}, Act β → Nonempty β) (p : Plan Act α) :
    (∃ a, p = .done a) ∨ ∃ q, Next q p := by
  induction p with
  | done a => exact .inl ⟨a, rfl⟩
  | act x k => exact .inr ⟨_, _, .begin x k⟩
  | awaiting x k => exact .inr ⟨_, _, .answer x k (hanswer x).some⟩
  | all n branches k ihBranches =>
      right
      by_cases hdone : ∀ i, ∃ b, branches i = .done b
      · choose bs hbs using hdone
        obtain rfl : branches = fun i => .done (bs i) := funext hbs
        exact ⟨_, _, .join bs k⟩
      · obtain ⟨i, hi⟩ := not_forall.mp hdone
        obtain ⟨q, e, hstep⟩ := (ihBranches i).resolve_left hi
        exact ⟨_, e, .branch hstep⟩
  | within limit body k => exact .inr ⟨_, _, .tooLate limit body k⟩

theorem halts (hanswer : ∀ {β : Type}, Act β → Nonempty β) (p : Plan Act α) : p.Halts where
  finite := by
    rintro ⟨f, rfl, hnext⟩
    exact not_acc_iff_exists_descending_chain.mpr ⟨f, rfl, hnext⟩ (acc_next _)
  goesOn _ q _ := done_or_next hanswer q

theorem exists_steps_done (hanswer : ∀ {β : Type}, Act β → Nonempty β) (p : Plan Act α) :
    ∃ t a, Steps p t (.done a) := by
  induction acc_next p with
  | intro p _ ih =>
      rcases done_or_next hanswer p with ⟨a, rfl⟩ | ⟨q, e, hstep⟩
      · exact ⟨[], a, .refl _⟩
      · obtain ⟨t, a, hrest⟩ := ih q ⟨e, hstep⟩
        exact ⟨e.toList ++ t, a, .head hstep hrest⟩

end Dissect.Plan
