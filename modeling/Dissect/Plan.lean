/-!
Plans: what a task does step by step, as data. A plan performs actions one after another, carries
out several plans side by side, or gives a plan a time limit. `advance` carries a plan out as far as
it goes, under a handler that answers actions or leaves them unanswered.
-/

namespace Dissect

/-- A plan that performs actions of a signature and ends in a result. -/
inductive Plan (Act : Type → Type 1) : Type → Type 1
  | done {α : Type} (a : α) : Plan Act α
  | act {α β : Type} (x : Act β) (k : β → Plan Act α) : Plan Act α
  /-- An action was begun; its answer is awaited. -/
  | awaiting {α β : Type} (x : Act β) (k : β → Plan Act α) : Plan Act α
  /-- Carry out branches side by side, and go on when all have ended. -/
  | all {α β : Type} (n : Nat) (branches : Fin n → Plan Act β) (k : List β → Plan Act α) :
      Plan Act α
  /-- Carry out a plan, but wait for its end no longer than a number of seconds. -/
  | within {α β : Type} (limit : Float) (body : Plan Act β) (k : Option β → Plan Act α) :
      Plan Act α

namespace Plan

variable {Act : Type → Type 1}

/-- Go on with another plan when a plan has ended. -/
def bind {α β : Type} : Plan Act α → (α → Plan Act β) → Plan Act β
  | .done a, f => f a
  | .act x k, f => .act x fun b => bind (k b) f
  | .awaiting x k, f => .awaiting x fun b => bind (k b) f
  | .all n branches k, f => .all n branches fun bs => bind (k bs) f
  | .within limit body k, f => .within limit body fun b => bind (k b) f

instance : Monad (Plan Act) where
  pure := .done
  bind := bind

def perform {β : Type} (x : Act β) : Plan Act β := .act x .done

/-- Plans one after another, behind the results so far, last first. -/
def inOrderOnto {α : Type} (found : List α) : List (Plan Act α) → Plan Act (List α)
  | [] => .done found.reverse
  | p :: rest => bind p fun a => inOrderOnto (a :: found) rest

def inOrder {α : Type} (ps : List (Plan Act α)) : Plan Act (List α) := inOrderOnto [] ps

def together {α : Type} (ps : List (Plan Act α)) : Plan Act (List α) :=
  let branches := ps.toArray
  .all branches.size (fun i => branches[i]) .done

def fanOut {α : Type} (concurrent : Bool) (ps : List (Plan Act α)) : Plan Act (List α) :=
  if concurrent then together ps else inOrder ps

def lift {Act' : Type → Type 1} (f : {β : Type} → Act β → Act' β) {α : Type} :
    Plan Act α → Plan Act' α
  | .done a => .done a
  | .act x k => .act (f x) fun b => lift f (k b)
  | .awaiting x k => .awaiting (f x) fun b => lift f (k b)
  | .all n branches k => .all n (fun i => lift f (branches i)) fun bs => lift f (k bs)
  | .within limit body k => .within limit (lift f body) fun b => lift f (k b)

def result? {α : Type} : Plan Act α → Option α
  | .done a => some a
  | _ => none

def results? {α : Type} : List (Plan Act α) → Option (List α)
  | [] => some []
  | p :: rest =>
      match p.result?, results? rest with
      | some a, some as => some (a :: as)
      | _, _ => none

/-- How actions are answered, in a world of states `σ`: the answer, or none if it does not come, and
the seconds that the action takes. -/
structure Handler (Act : Type → Type 1) (σ : Type) where
  answer : {β : Type} → Act β → σ → Option β × σ
  seconds : {β : Type} → Act β → Float

structure Progress (Act : Type → Type 1) (σ α : Type) where
  plan : Plan Act α
  time : Float
  state : σ

/-- Carry out a plan from a time on until it ends or every part of it waits for an answer. Branches
side by side are carried out in their order, each as far as it goes; they end with the last of
them. -/
def advance {σ : Type} (h : Handler Act σ) {α : Type} :
    Plan Act α → Float → σ → Progress Act σ α
  | .done a, time, s => ⟨.done a, time, s⟩
  | .awaiting x k, time, s => ⟨.awaiting x k, time, s⟩
  | .act x k, time, s =>
      match h.answer x s with
      | (some b, s) => advance h (k b) (time + h.seconds x) s
      | (none, s) => ⟨.awaiting x k, time, s⟩
  | .all n branches k, time, s =>
      let (plans, stop, s) := (List.finRange n).foldl
        (fun (acc : Array (Plan Act _) × Float × σ) i =>
          let p := advance h (branches i) time acc.2.2
          (acc.1.push p.plan, if acc.2.1 < p.time then p.time else acc.2.1, p.state))
        (#[], time, s)
      match results? plans.toList with
      | some bs => advance h (k bs) stop s
      | none => ⟨.all n (fun i => plans.getD i (branches i)) k, stop, s⟩
  | .within limit body k, time, s =>
      let p := advance h body time s
      match p.plan.result? with
      | none => ⟨.within limit p.plan k, p.time, p.state⟩
      | some b =>
          if p.time - time < limit then advance h (k (some b)) p.time p.state
          else advance h (k none) (time + limit) p.state

/-- The plan after the time limits of what it waits for have passed. -/
def expire {α : Type} : Plan Act α → Plan Act α
  | .within _ _ k => k none
  | p => p

def waiting {α : Type} : Plan Act α → Nat
  | .awaiting _ _ => 1
  | .all n branches _ => (List.finRange n).foldr (fun i count => waiting (branches i) + count) 0
  | .within _ body _ => waiting body
  | _ => 0

/-- The plan after every answer it waits for has come. -/
def release {α : Type} (late : {β : Type} → Act β → Option β) : Plan Act α → Plan Act α
  | .awaiting x k =>
      match late x with
      | some b => k b
      | none => .awaiting x k
  | .all n branches k => .all n (fun i => release late (branches i)) k
  | .within limit body k => .within limit (release late body) k
  | p => p

end Plan

end Dissect
