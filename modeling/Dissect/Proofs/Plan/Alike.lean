import Dissect.Proofs.Plan.Advance
import Dissect.Session

namespace Dissect.Plan

variable {Act Act' : Type → Type 1} {α β σ σ' : Type} {f : {β : Type} → Act β → Act' β}
  {R : σ → σ' → Prop} {h : Handler Act σ} {h' : Handler Act' σ'}

/-- In related states the handlers give the same answers, and leave related states. -/
structure Handler.Alike (h : Handler Act σ) (f : {β : Type} → Act β → Act' β)
    (R : σ → σ' → Prop) (h' : Handler Act' σ') : Prop where
  answer : ∀ {β : Type} (x : Act β) {s : σ} {s' : σ'}, R s s' →
    (h'.answer (f x) s').1 = (h.answer x s).1
  state : ∀ {β : Type} (x : Act β) {s : σ} {s' : σ'}, R s s' →
    R (h.answer x s).2 (h'.answer (f x) s').2
  seconds : ∀ {β : Type} (x : Act β), h'.seconds (f x) = h.seconds x

structure Progress.Alike (f : {β : Type} → Act β → Act' β) (R : σ → σ' → Prop)
    (p : Progress Act σ α) (q : Progress Act' σ' α) : Prop where
  plan : q.plan = lift f p.plan
  time : q.time = p.time
  state : R p.state q.state

def AdvancesAlike (f : {β : Type} → Act β → Act' β) (R : σ → σ' → Prop) (h : Handler Act σ)
    (h' : Handler Act' σ') (p : Plan Act α) : Prop :=
  ∀ time {s : σ} {s' : σ'}, R s s' →
    (advance h p time s).Alike f R (advance h' (lift f p) time s')

theorem result?_lift (p : Plan Act α) : (lift f p).result? = p.result? := by
  cases p <;> rfl

theorem results?_map_lift (ps : List (Plan Act α)) :
    results? (ps.map (lift f)) = results? ps := by
  induction ps with
  | nil => rfl
  | cons p ps ih => rw [List.map_cons, results?, results?, result?_lift, ih]

theorem expire_lift (p : Plan Act α) : (lift f p).expire = lift f p.expire := by
  cases p <;> rfl

structure BranchesAlike (f : {β : Type} → Act β → Act' β) (R : σ → σ' → Prop)
    (acc : Array (Plan Act β) × Float × σ) (acc' : Array (Plan Act' β) × Float × σ') : Prop where
  plans : acc'.1.toList = acc.1.toList.map (lift f)
  stop : acc'.2.1 = acc.2.1
  state : R acc.2.2 acc'.2.2

theorem BranchesAlike.getD {n : Nat} {acc : Array (Plan Act β) × Float × σ}
    {acc' : Array (Plan Act' β) × Float × σ'} (hacc : BranchesAlike f R acc acc')
    (branches : Fin n → Plan Act β) :
    (fun i : Fin n => acc'.1.getD i (lift f (branches i)))
      = fun i : Fin n => lift f (acc.1.getD i (branches i)) := by
  funext i
  rw [Array.getD_eq_getD_getElem?, Array.getD_eq_getD_getElem?, ← Array.getElem?_toList,
    ← Array.getElem?_toList, hacc.plans, List.getElem?_map]
  cases acc.1.toList[i.1]? <;> rfl

def advanceOnto {n : Nat} (h : Handler Act σ) (branches : Fin n → Plan Act β) (time : Float)
    (acc : Array (Plan Act β) × Float × σ) (i : Fin n) : Array (Plan Act β) × Float × σ :=
  let p := advance h (branches i) time acc.2.2
  (acc.1.push p.plan, if acc.2.1 < p.time then p.time else acc.2.1, p.state)

theorem advance_all {n : Nat} (h : Handler Act σ) (branches : Fin n → Plan Act β)
    (k : List β → Plan Act α) (time : Float) (s : σ) :
    advance h (.all n branches k) time s =
      let last := (List.finRange n).foldl (advanceOnto h branches time) (#[], time, s)
      match results? last.1.toList with
      | some bs => advance h (k bs) last.2.1 last.2.2
      | none => ⟨.all n (fun i => last.1.getD i (branches i)) k, last.2.1, last.2.2⟩ := by
  rw [advance]
  rfl

theorem branchesAlike_foldl {n : Nat} {branches : Fin n → Plan Act β}
    (hbranches : ∀ i, AdvancesAlike f R h h' (branches i)) (time : Float) (is : List (Fin n))
    {acc : Array (Plan Act β) × Float × σ} {acc' : Array (Plan Act' β) × Float × σ'}
    (hacc : BranchesAlike f R acc acc') :
    BranchesAlike f R (is.foldl (advanceOnto h branches time) acc)
      (is.foldl (advanceOnto h' (fun i => lift f (branches i)) time) acc') := by
  -- each branch starts at the same time, but from where the one before has left the states
  induction is generalizing acc acc' with
  | nil => exact hacc
  | cons i is ih =>
      have hbranch := hbranches i time hacc.state
      refine ih ⟨?_, ?_, hbranch.state⟩
      · rw [advanceOnto, advanceOnto, Array.toList_push, Array.toList_push, hacc.plans,
          hbranch.plan, List.map_append, List.map_singleton]
      · rw [advanceOnto, advanceOnto, hacc.stop, hbranch.time]

theorem advancesAlike_all {n : Nat} {branches : Fin n → Plan Act β} {k : List β → Plan Act α}
    (hbranches : ∀ i, AdvancesAlike f R h h' (branches i))
    (hk : ∀ bs, AdvancesAlike f R h h' (k bs)) :
    AdvancesAlike f R h h' (.all n branches k) := by
  intro time s s' hs
  have hfirst : BranchesAlike f R ((#[], time, s) : Array (Plan Act β) × Float × σ)
      (#[], time, s') := ⟨rfl, rfl, hs⟩
  have hlast := branchesAlike_foldl hbranches time (List.finRange n) hfirst
  rw [lift, advance_all, advance_all]
  generalize (List.finRange n).foldl (advanceOnto h branches time) (#[], time, s) = last at hlast ⊢
  generalize (List.finRange n).foldl (advanceOnto h' _ time) (#[], time, s') = last' at hlast ⊢
  dsimp only
  rw [hlast.plans, results?_map_lift, hlast.stop, hlast.getD]
  cases results? last.1.toList with
  | some bs => exact hk bs _ hlast.state
  | none => exact ⟨rfl, rfl, hlast.state⟩

theorem advancesAlike_within {limit : Float} {body : Plan Act β} {k : Option β → Plan Act α}
    (hbody : AdvancesAlike f R h h' body) (hk : ∀ b, AdvancesAlike f R h h' (k b)) :
    AdvancesAlike f R h h' (.within limit body k) := by
  intro time s s' hs
  have hinside := hbody time hs
  rw [lift, advance, advance]
  generalize advance h body time s = p at hinside ⊢
  generalize advance h' (lift f body) time s' = q at hinside ⊢
  dsimp only
  rw [hinside.plan, result?_lift, hinside.time]
  cases p.plan.result? with
  | none => exact ⟨rfl, rfl, hinside.state⟩
  | some b =>
      dsimp only
      split
      · exact hk _ _ hinside.state
      · exact hk _ _ hinside.state

theorem advancesAlike_act {x : Act β} {k : β → Plan Act α} (halike : h.Alike f R h')
    (hk : ∀ b, AdvancesAlike f R h h' (k b)) : AdvancesAlike f R h h' (.act x k) := by
  intro time s s' hs
  have hanswer := halike.answer x hs
  have hstate := halike.state x hs
  rw [lift, advance, advance, halike.seconds]
  generalize h.answer x s = r at hanswer hstate ⊢
  generalize h'.answer (f x) s' = r' at hanswer hstate ⊢
  obtain ⟨b, w⟩ := r
  obtain ⟨b', w'⟩ := r'
  obtain rfl : b' = b := hanswer
  cases b' with
  | none => exact ⟨rfl, rfl, hstate⟩
  | some b => exact hk b _ hstate

/-- Under handlers that answer alike a plan is carried out equally far. -/
theorem advancesAlike (halike : h.Alike f R h') (p : Plan Act α) : AdvancesAlike f R h h' p := by
  induction p with
  | done a => exact fun time s s' hs => ⟨rfl, rfl, hs⟩
  | awaiting x k => exact fun time s s' hs => ⟨rfl, rfl, hs⟩
  | act x k ih => exact advancesAlike_act halike ih
  | all n branches k ihBranches ih => exact advancesAlike_all ihBranches ih
  | within limit body k ihBody ih => exact advancesAlike_within ihBody ih

theorem carryOut_alike (halike : h.Alike f R h') (p : Plan Act α) {s : σ} {s' : σ'} (hs : R s s') :
    (carryOut h p s).Alike f R (carryOut h' (lift f p) s') := by
  have hfirst := advancesAlike halike p 0.0 hs
  rw [carryOut, carryOut]
  generalize advance h p 0.0 s = first at hfirst ⊢
  generalize advance h' (lift f p) 0.0 s' = first' at hfirst ⊢
  rw [hfirst.plan, result?_lift, expire_lift, hfirst.time]
  cases first.plan.result? with
  | some a => exact hfirst
  | none => exact advancesAlike halike _ _ hfirst.state

theorem result?_bind {p : Plan Act α} (hp : p.result? = none) (k : α → Plan Act β) :
    (p >>= k).result? = none := by
  cases p with
  | done a => cases hp
  | act | awaiting | all | within => rfl

theorem expire_bind {p : Plan Act α} (hp : p.result? = none) (k : α → Plan Act β) :
    (p >>= k).expire = p.expire >>= k := by
  cases p with
  | done a => cases hp
  | act | awaiting | all | within => rfl

theorem Progress.goOn_done (m : Progress Act σ α) (g : α → β) :
    (m.goOn h fun a => .done (g a)).plan.result? = m.plan.result?.map g ∧
      (m.goOn h fun a => .done (g a)).state = m.state := by
  rw [goOn]
  cases hm : m.plan.result? with
  | some a => exact ⟨rfl, rfl⟩
  | none => exact ⟨result?_bind hm _, rfl⟩

theorem carryOut_bind_done (h : Handler Act σ) (p : Plan Act α) (g : α → β) (s : σ) :
    (carryOut h (p >>= fun a => .done (g a)) s).plan.result? = (carryOut h p s).plan.result?.map g ∧
      (carryOut h (p >>= fun a => .done (g a)) s).state = (carryOut h p s).state := by
  rw [carryOut, carryOut, advance_bind_eq]
  generalize advance h p 0.0 s = first
  rw [(first.goOn_done g).1]
  cases hresult : first.plan.result? with
  | some a => exact first.goOn_done g
  | none =>
      dsimp only [Option.map_none]
      rw [Progress.goOn, hresult]
      dsimp only
      rw [expire_bind hresult, advance_bind_eq]
      exact Progress.goOn_done _ g

theorem perform_bind (x : Act β) (k : β → Plan Act α) : perform x >>= k = .act x k := rfl

/-- An action that is answered at once, and changes nothing, is passed over. -/
theorem carryOut_act {x : Act β} {b : β} {s : σ} (hanswer : h.answer x s = (some b, s))
    (hseconds : h.seconds x = 0.0) (k : β → Plan Act α) :
    carryOut h (.act x k) s = carryOut h (k b) s := by
  have htime : (0.0 + 0.0 : Float) = 0.0 := by decide
  rw [carryOut, carryOut, advance, hanswer, hseconds, htime]

end Dissect.Plan
