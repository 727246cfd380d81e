import Dissect.Proofs.Plan.Run

namespace Dissect.Plan

variable {Act : Type → Type 1} {α β σ : Type}

theorem eq_done_of_result? {p : Plan Act α} {a : α} (h : p.result? = some a) : p = .done a := by
  cases p with
  | done b =>
      obtain rfl : b = a := by simpa [result?] using h
      rfl
  | act | awaiting | all | within => simp [result?] at h

theorem eq_map_done_of_results? {ps : List (Plan Act α)} {as : List α}
    (h : results? ps = some as) : ps = as.map .done := by
  induction ps generalizing as with
  | nil =>
      obtain rfl : [] = as := by simpa [results?] using h
      rfl
  | cons p ps ih =>
      rw [results?] at h
      split at h
      · rename_i a as' hp hps
        obtain rfl : a :: as' = as := by simpa using h
        rw [eq_done_of_result? hp, ih hps, List.map_cons]
      · cases h

theorem step_of_results? {n : Nat} {branches : Fin n → Plan Act β} {k : List β → Plan Act α}
    {plans : Array (Plan Act β)} {bs : List β} (hsize : plans.size = n)
    (h : results? plans.toList = some bs) :
    Step (.all n (fun i => plans.getD i (branches i)) k) none (k bs) := by
  have hdone := eq_map_done_of_results? h
  have hlength : n = bs.length := by
    rw [← hsize, ← Array.length_toList, hdone, List.length_map]
  have hplans : (fun i : Fin n => plans.getD i (branches i))
      = fun i => .done (bs.get (i.cast hlength)) := by
    funext i
    have hi : plans[i.1]? = some (.done (bs.get (i.cast hlength))) := by
      simp [← Array.getElem?_toList, hdone, ← hlength]
    rw [Array.getD_eq_getD_getElem?, hi, Option.getD_some]
  have hofFn : List.ofFn (fun i : Fin n => bs.get (i.cast hlength)) = bs :=
    (ofFn_get_cast hlength id).trans (List.map_id bs)
  have hjoin := Step.join (fun i => bs.get (i.cast hlength)) k
  rw [hofFn] at hjoin
  rw [hplans]
  exact hjoin

/-- Steps of a plan in a world whose state changes with each step as a relation allows. -/
inductive Drives (R : σ → Option (Event Act) → σ → Prop) : Plan Act α → σ → Plan Act α → σ → Prop
  | refl (p : Plan Act α) (s : σ) : Drives R p s p s
  | head {p q r : Plan Act α} {s s' s'' : σ} {e : Option (Event Act)} (first : Step p e q)
      (react : R s e s') (rest : Drives R q s' r s'') : Drives R p s r s''

/-- The world answers actions as a handler does. -/
structure Handler.Fits (h : Handler Act σ) (R : σ → Option (Event Act) → σ → Prop) : Prop where
  silent : ∀ s, R s none s
  begun : ∀ {β : Type} (x : Act β) (s : σ), R s (some (.begun x)) s
  answered : ∀ {β : Type} {x : Act β} {b : β} {s s' : σ},
    h.answer x s = (some b, s') → R s (some (.answered x b)) s'
  unanswered : ∀ {β : Type} {x : Act β} {s s' : σ},
    h.answer x s = (none, s') → R s (some (.begun x)) s'

theorem Handler.Fits.and {h : Handler Act σ} {R R' : σ → Option (Event Act) → σ → Prop}
    (hfits : h.Fits R) (hfits' : h.Fits R') : h.Fits fun s e s' => R s e s' ∧ R' s e s' where
  silent s := ⟨hfits.silent s, hfits'.silent s⟩
  begun x s := ⟨hfits.begun x s, hfits'.begun x s⟩
  answered hanswer := ⟨hfits.answered hanswer, hfits'.answered hanswer⟩
  unanswered hanswer := ⟨hfits.unanswered hanswer, hfits'.unanswered hanswer⟩

namespace Drives

variable {R : σ → Option (Event Act) → σ → Prop} {p q r : Plan Act α} {s s' s'' : σ}

theorem single {e : Option (Event Act)} (first : Step p e q) (react : R s e s') :
    Drives R p s q s' :=
  .head first react (.refl q s')

theorem trans (h : Drives R p s q s') (h' : Drives R q s' r s'') : Drives R p s r s'' := by
  induction h with
  | refl => exact h'
  | head first react _ ih => exact .head first react (ih h')

theorem branch {n : Nat} {branches : Fin n → Plan Act β} {k : List β → Plan Act α} {i : Fin n}
    {q : Plan Act β} (h : Drives R (branches i) s q s') :
    Drives R (.all n branches k) s (.all n (Function.update branches i q) k) s' := by
  generalize hp : branches i = p at h
  induction h generalizing branches with
  | refl p s =>
      rw [← hp, Function.update_eq_self]
      exact .refl _ s
  | @head p m r _ _ _ e first react _ ih =>
      rw [← hp] at first
      have hrest := @ih (Function.update branches i m) (Function.update_self i m branches)
      rw [Function.update_idem] at hrest
      exact .head (.branch first) react hrest

theorem inside {limit : Float} {body q : Plan Act β} {k : Option β → Plan Act α}
    (h : Drives R body s q s') : Drives R (.within limit body k) s (.within limit q k) s' := by
  induction h with
  | refl p s => exact .refl _ s
  | head first react _ ih => exact .head (.inside first) react ih

end Drives

variable {R : σ → Option (Event Act) → σ → Prop} {h : Handler Act σ}

theorem getD_push {n : Nat} (branches : Fin n → Plan Act β) (plans : Array (Plan Act β))
    (p : Plan Act β) {i : Fin n} (hi : i.1 = plans.size) :
    (fun j : Fin n => (plans.push p).getD j (branches j))
      = Function.update (fun j : Fin n => plans.getD j (branches j)) i p := by
  funext j
  rw [Array.getD_eq_getD_getElem?, Array.getElem?_push, ← hi]
  by_cases hj : j = i
  · rw [hj, if_pos rfl, Function.update_self, Option.getD_some]
  · have hval : j.1 ≠ i.1 := fun heq => hj (Fin.ext heq)
    rw [if_neg hval, Function.update_of_ne hj, Array.getD_eq_getD_getElem?]

theorem drives_foldl_advance {n : Nat} {branches : Fin n → Plan Act β} {k : List β → Plan Act α}
    (hbranches : ∀ i time s,
      Drives R (branches i) s (advance h (branches i) time s).plan
        (advance h (branches i) time s).state)
    (time : Float) (is : List (Fin n)) (acc : Array (Plan Act β) × Float × σ)
    (his : is.map Fin.val = List.range' acc.1.size is.length) :
    let last := is.foldl (fun acc i =>
      let p := advance h (branches i) time acc.2.2
      (acc.1.push p.plan, if acc.2.1 < p.time then p.time else acc.2.1, p.state)) acc
    last.1.size = acc.1.size + is.length ∧
      Drives R (.all n (fun i => acc.1.getD i (branches i)) k) acc.2.2
        (.all n (fun i => last.1.getD i (branches i)) k) last.2.2 := by
  induction is generalizing acc with
  | nil => exact ⟨rfl, .refl _ _⟩
  | cons i is ih =>
      rw [List.map_cons, List.length_cons, List.range'_succ, List.cons.injEq] at his
      obtain ⟨hi, hrest⟩ := his
      have hself : branches i = acc.1.getD i (branches i) := by
        simp [Array.getD_eq_getD_getElem?, hi]
      have hfirst := hbranches i time acc.2.2
      rw [hself] at hfirst
      have hall :=
        @Drives.branch Act α β σ R _ _ n (fun j => acc.1.getD j (branches j)) k i _ hfirst
      rw [← hself, ← getD_push branches acc.1 _ hi] at hall
      rw [List.foldl_cons]
      obtain ⟨hsize, hlater⟩ := ih
        (acc.1.push (advance h (branches i) time acc.2.2).plan, _, _)
        (by rw [Array.size_push]; exact hrest)
      refine ⟨?_, hall.trans hlater⟩
      rw [hsize, Array.size_push, List.length_cons]
      omega

theorem drives_advance_all {n : Nat} {branches : Fin n → Plan Act β} {k : List β → Plan Act α}
    (hfits : h.Fits R)
    (hbranches : ∀ i time s, Drives R (branches i) s (advance h (branches i) time s).plan
      (advance h (branches i) time s).state)
    (hk : ∀ bs time s, Drives R (k bs) s (advance h (k bs) time s).plan
      (advance h (k bs) time s).state) (time : Float) (s : σ) :
    Drives R (.all n branches k) s (advance h (.all n branches k) time s).plan
      (advance h (.all n branches k) time s).state := by
  obtain ⟨hsize, hdrives⟩ := drives_foldl_advance (k := k) hbranches time (List.finRange n)
    (#[], time, s) (by simp [List.range_eq_range'])
  rw [advance]
  split
  rename_i plans stop s' hfold
  rw [hfold] at hsize hdrives
  have hplans : plans.size = n := by simpa using hsize
  split
  · rename_i bs hbs
    exact hdrives.trans (.head (step_of_results? hplans hbs) (hfits.silent s') (hk bs stop s'))
  · exact hdrives

theorem drives_advance_within {limit : Float} {body : Plan Act β} {k : Option β → Plan Act α}
    {time : Float} {s : σ} (hfits : h.Fits R)
    (hbody : Drives R body s (advance h body time s).plan (advance h body time s).state)
    (hk : ∀ b time s, Drives R (k b) s (advance h (k b) time s).plan
      (advance h (k b) time s).state) :
    Drives R (.within limit body k) s (advance h (.within limit body k) time s).plan
      (advance h (.within limit body k) time s).state := by
  rw [advance]
  split
  · exact hbody.inside
  · rename_i b hb
    rw [eq_done_of_result? hb] at hbody
    split
    · exact hbody.inside.trans (.head (.inTime limit b k) (hfits.silent _) (hk _ _ _))
    · exact hbody.inside.trans (.head (.tooLate limit _ k) (hfits.silent _) (hk _ _ _))

/-- A plan gets by steps where a handler carries it, and so does the world. -/
theorem drives_advance (hfits : h.Fits R) (p : Plan Act α) (time : Float) (s : σ) :
    Drives R p s (advance h p time s).plan (advance h p time s).state := by
  induction p generalizing time s with
  | done a => exact .refl _ s
  | awaiting x k => exact .refl _ s
  | act x k ih =>
      rw [advance]
      split
      · rename_i b s' hanswer
        exact .head (.begin x k) (hfits.begun x s)
          (.head (.answer x k b) (hfits.answered hanswer) (ih b _ s'))
      · rename_i s' hanswer
        exact .single (.begin x k) (hfits.unanswered hanswer)
  | all n branches k ihBranches ih => exact drives_advance_all hfits ihBranches ih time s
  | within limit body k ihBody ih => exact drives_advance_within hfits (ihBody time s) ih

theorem drives_expire (hfits : h.Fits R) (p : Plan Act α) (s : σ) : Drives R p s p.expire s := by
  cases p with
  | within limit body k => exact .single (.tooLate limit body k) (hfits.silent s)
  | done | act | awaiting | all => exact .refl _ s

def Progress.goOn (h : Handler Act σ) (k : α → Plan Act β) (p : Progress Act σ α) :
    Progress Act σ β :=
  match p.plan.result? with
  | some a => advance h (k a) p.time p.state
  | none => ⟨p.plan >>= k, p.time, p.state⟩

theorem advance_bind_eq (h : Handler Act σ) (p : Plan Act α) (k : α → Plan Act β) (time : Float)
    (s : σ) : advance h (p >>= k) time s = (advance h p time s).goOn h k := by
  change advance h (p.bind k) time s = _
  induction p generalizing time s with
  | done a => rfl
  | awaiting x next => rfl
  | act x next ih =>
      rw [bind, advance, advance]
      split
      · exact ih _ k _ _
      · rfl
  | all n branches next ihBranches ih =>
      rw [bind, advance, advance]
      split
      split
      · exact ih _ k _ _
      · rfl
  | within limit body next ihBody ih =>
      rw [bind, advance, advance]
      split
      · rfl
      · split
        · exact ih _ k _ _
        · exact ih _ k _ _

theorem advance_bind {h : Handler Act σ} {p : Plan Act α} {time stop : Float} {s s' : σ} {a : α}
    (hp : advance h p time s = ⟨.done a, stop, s'⟩) (k : α → Plan Act β) :
    advance h (p >>= k) time s = advance h (k a) stop s' := by
  rw [advance_bind_eq, hp]
  rfl

/-- A world whose state changes with each of several events as a relation allows. -/
inductive Along (R : σ → Option (Event Act) → σ → Prop) : σ → List (Event Act) → σ → Prop
  | nil (s : σ) : Along R s [] s
  | cons {s s' s'' : σ} {e : Event Act} {t : List (Event Act)} (react : R s (some e) s')
      (rest : Along R s' t s'') : Along R s (e :: t) s''

theorem Along.append {s s' : σ} {t u : List (Event Act)} (h : Along R s (t ++ u) s') :
    ∃ m, Along R s t m ∧ Along R m u s' := by
  induction t generalizing s with
  | nil => exact ⟨s, .nil s, h⟩
  | cons e t ih =>
      cases h with
      | cons react rest =>
          obtain ⟨m, hfront, hback⟩ := ih rest
          exact ⟨m, .cons react hfront, hback⟩

theorem Along.map {σ' : Type} {R' : σ' → Option (Event Act) → σ' → Prop} (g : σ → σ')
    (hg : ∀ {s s' : σ} {e : Option (Event Act)}, R s e s' → R' (g s) e (g s')) {s s' : σ}
    {t : List (Event Act)} (h : Along R s t s') : Along R' (g s) t (g s') := by
  induction h with
  | nil s => exact .nil (g s)
  | cons react rest ih => exact .cons (hg react) ih

/-- Steps in a world show events along which the world changes. -/
theorem Drives.exists_along {p q : Plan Act α} {s s' : σ}
    (hsilent : ∀ {s s' : σ}, R s none s' → s' = s) (h : Drives R p s q s') :
    ∃ t, Steps p t q ∧ Along R s t s' := by
  induction h with
  | refl p s => exact ⟨[], .refl p, .nil s⟩
  | @head p m q s s₁ s' e first react rest ih =>
      obtain ⟨t, hsteps, halong⟩ := ih
      refine ⟨_, .head first hsteps, ?_⟩
      cases e with
      | none =>
          obtain rfl := hsilent react
          exact halong
      | some e => exact .cons react halong

theorem Drives.map {σ' : Type} {R' : σ' → Option (Event Act) → σ' → Prop} (g : σ → σ')
    (hg : ∀ {s s' : σ} {e : Option (Event Act)}, R s e s' → R' (g s) e (g s')) {p q : Plan Act α}
    {s s' : σ} (h : Drives R p s q s') : Drives R' p (g s) q (g s') := by
  induction h with
  | refl p s => exact .refl p (g s)
  | head first react rest ih => exact .head first (hg react) ih

end Dissect.Plan
