import Dissect.Proofs.Plan.Advance
import Dissect.Proofs.Session.Moves

namespace Dissect

open Plan (Event Step Drives)

variable {σ : Type}

theorem Surroundings.jobs_answerEffect (calls : Plan.Handler Call σ) {α : Type} (x : Effect α)
    (w : Surroundings σ) : (answerEffect calls x w).2.jobs = w.jobs := by
  cases x <;> rfl

theorem Surroundings.clock_answerEffect (calls : Plan.Handler Call σ) {α : Type} (x : Effect α)
    (w : Surroundings σ) : (answerEffect calls x w).2.clock = w.clock := by
  cases x <;> rfl

theorem Surroundings.fits_tasks (calls : Plan.Handler Call σ) :
    (tasks calls).Fits Reacts where
  silent w := .silent
  begun x w := .begun x rfl rfl
  answered := by
    intro β x b w w' h
    cases x with
    | run x =>
        have hw : (answerEffect calls x w).2 = w' := congrArg Prod.snd h
        subst hw
        exact .run x b (jobs_answerEffect calls x w) (clock_answerEffect calls x w)
    | findJob id =>
        cases h
        exact .findJob id
    | track id e =>
        cases h
        exact .track id e ()
  unanswered := by
    intro β x w w' h
    cases x with
    | run x =>
        have hw : (answerEffect calls x w).2 = w' := congrArg Prod.snd h
        subst hw
        exact .begun _ (jobs_answerEffect calls x w) (clock_answerEffect calls x w)
    | findJob id => cases h
    | track id e => cases h

theorem Plan.drives_carryOut {Act : Type → Type 1} {α : Type} {h : Plan.Handler Act σ}
    {R : σ → Option (Event Act) → σ → Prop} (hfits : h.Fits R) (p : Plan Act α) (s : σ) :
    Drives R p s (carryOut h p s).plan (carryOut h p s).state := by
  have hfirst := drives_advance hfits p 0.0 s
  rw [carryOut]
  split
  · exact hfirst
  · exact (hfirst.trans (drives_expire hfits _ _)).trans (drives_advance hfits _ _ _)

namespace Session

theorem any_cancelled_modify {m : Job.Registry} {id id' : String} {f : Job → Job}
    (hf : ∀ job, (f job).task.any (·.cancelled) = job.task.any (·.cancelled)) :
    (((m.modify id f).find? id').bind (·.task)).any (·.cancelled)
      = ((m.find? id').bind (·.task)).any (·.cancelled) := by
  rw [Job.Registry.find?_modify]
  split
  · rename_i heq
    subst heq
    cases m.find? id' with
    | none => rfl
    | some job => exact hf job
  · rfl

theorem isCancelled_keepTask {s : Session σ} {e : Option (Event TaskEffect)} {id id' : String}
    {next : Task} {time : Float} {world : Surroundings σ} (hworld : s.world.Reacts e world) :
    (s.keepTask id ⟨next, time, world⟩).isCancelled id' = s.isCancelled id' := by
  have hreacts : ((world.jobs.find? id').bind (·.task)).any (·.cancelled) = s.isCancelled id' := by
    cases hnote : e.bind Service.noteOf? with
    | none =>
        rw [jobs_of_reacts_none hworld hnote]
        rfl
    | some note =>
        rw [jobs_of_reacts_some hworld hnote]
        exact any_cancelled_modify fun job => by cases note.2 <;> rfl
  rw [← hreacts, isCancelled, jobs_keepTask]
  split
  · exact any_cancelled_modify fun job => by rw [markEnded]; cases job.task <;> rfl
  · rfl

theorem keepTask_of_waits (s : Session σ) (id : String)
    {p : Plan.Progress TaskEffect (Surroundings σ) (Except ServiceError Json)}
    (hp : p.plan.result? = none) : s.keepTask id p
      = { s with world := p.state, tasks := (id, p.plan) :: s.tasks.filter (·.1 != id) } := by
  rw [keepTask, hp]
  rfl

theorem keepTask_keepTask {s : Session σ} {id : String}
    {p q : Plan.Progress TaskEffect (Surroundings σ) (Except ServiceError Json)}
    (hp : p.plan.result? = none) : (s.keepTask id p).keepTask id q = s.keepTask id q := by
  have hfilter : ((id, p.plan) :: s.tasks.filter (·.1 != id)).filter (·.1 != id)
      = s.tasks.filter (·.1 != id) := by
    rw [List.filter_cons, List.filter_filter]
    simp
  rw [keepTask_of_waits s id hp, keepTask, hfilter, keepTask]

theorem move_keepTask {s : Session σ} {id : String} {task : Task} (htask : s.taskOf? id = some task)
    (hwaits : task.result? = none) (time : Float) :
    Move s .elapsed (s.keepTask id ⟨task, time, s.world⟩) := by
  have htasks : ∀ id', (s.keepTask id ⟨task, time, s.world⟩).taskOf? id' = s.taskOf? id' := by
    intro id'
    by_cases hne : id' = id
    · rw [hne, taskOf?_keepTask_self, htask]
    · rw [taskOf?_keepTask_of_ne s id _ hne]
  rw [keepTask_of_waits s id hwaits] at htasks ⊢
  exact .elapse rfl htasks

theorem moves_of_drives {id : String} {p q : Task} {w w' : Surroundings σ}
    (hdrives : Drives Surroundings.Reacts p w q w') {s : Session σ} (hw : s.world = w)
    (htask : s.taskOf? id = some p) (hwaits : p.result? = none)
    (hcancelled : s.isCancelled id = false) (time : Float) :
    ∃ h, Moves s h (s.keepTask id ⟨q, time, w'⟩) ∧ ∀ x ∈ h, x.1 = w.clock := by
  induction hdrives generalizing s with
  | refl p w =>
      subst hw
      refine ⟨_, .single (move_keepTask htask hwaits time), ?_⟩
      intro x hx
      obtain rfl := List.mem_singleton.mp hx
      exact clock_keepTask s id _
  | @head p m q w w₁ w' e first react rest ih =>
      subst hw
      have hmove := Move.step htask hcancelled first react
      have hclock : (s.keepTask id ⟨m, s.world.clock, w₁⟩).world.clock = s.world.clock :=
        (clock_keepTask s id _).trans (clock_of_reacts react)
      cases hm : m.result? with
      | some outcome =>
          obtain rfl := Plan.eq_done_of_result? hm
          cases rest with
          | head first => cases first
          | refl =>
              refine ⟨_, .single hmove, ?_⟩
              intro x hx
              obtain rfl := List.mem_singleton.mp hx
              exact hclock
      | none =>
          have hworld : (s.keepTask id ⟨m, s.world.clock, w₁⟩).world = w₁ := by
            rw [keepTask_of_waits s id hm]
          obtain ⟨h, hmoves, htimes⟩ := ih hworld (taskOf?_keepTask_self s id _) hm
            ((isCancelled_keepTask react).trans hcancelled)
          rw [keepTask_keepTask hm] at hmoves
          refine ⟨_, (Moves.single hmove).trans hmoves, ?_⟩
          intro x hx
          rcases List.mem_append.mp hx with hx | hx
          · obtain rfl := List.mem_singleton.mp hx
            exact hclock
          · exact (htimes x hx).trans (clock_of_reacts react)

/-- A session in which the end of a task is awaited has come there by moves, all at one time. -/
theorem moves_await {s : Session σ} {id : String} {task : Task} (htask : s.taskOf? id = some task)
    (hwaits : task.result? = none) :
    ∃ h, Moves s h (s.await id).2 ∧ ∀ x ∈ h, x.1 = s.world.clock := by
  cases hcancelled : s.isCancelled id with
  | true =>
      rw [await, hcancelled, if_pos rfl]
      exact ⟨[], .refl, fun _ hx => nomatch hx⟩
  | false =>
      obtain ⟨⟨k, p⟩, hfind, rfl⟩ := Option.map_eq_some_iff.mp htask
      have hdrives := Plan.drives_carryOut (Surroundings.fits_tasks s.calls) p s.world
      rw [await, hcancelled, hfind]
      exact moves_of_drives hdrives rfl htask hwaits hcancelled _

theorem moves_awaitCalls {s : Session σ} {id : String} {task : Task}
    (htask : s.taskOf? id = some task) (hwaits : task.result? = none)
    (hcancelled : s.isCancelled id = false) :
    ∃ h, Moves s h (s.awaitCalls id).2 ∧ ∀ x ∈ h, x.1 = s.world.clock := by
  obtain ⟨⟨k, p⟩, hfind, rfl⟩ := Option.map_eq_some_iff.mp htask
  have hdrives := Plan.drives_advance (Surroundings.fits_tasks s.calls) p 0.0 s.world
  rw [awaitCalls, hfind]
  exact moves_of_drives hdrives rfl htask hwaits hcancelled _

/-- A session with a source that is empty and a model that never answers. -/
def unanswered (service : Service) : Session Unit where
  service
  calls := ⟨fun _ m => (none, m), fun _ => 0.0⟩
  world := ⟨(FileTree.empty.write ⟨"", ["a.js"]⟩ []).1, 5.0, [], [], ()⟩
  ids := ["11111111", "22222222"]
  tasks := []

def requested (service : Service) : Session Unit := ((unanswered service).start "a.js" none).2

def requestedTwice (service : Service) : Session Unit := ((requested service).start "a.js" none).2

def awaited (service : Service) : Session Unit :=
  (((requestedTwice service).cancel "22222222").2.await "11111111").2

theorem exists_requested_unanswered (service : Service) :
    (∃ dir, Requested (unanswered service) (requested service) "11111111" "a.js" dir) ∧
      ∃ dir, Requested (requested service) (requestedTwice service) "22222222" "a.js" dir := by
  have hcomplaint : Service.complaint (unanswered service).world.files "a.js" = .ok none := rfl
  obtain ⟨dir, hfirst⟩ := exists_requested hcomplaint rfl (by decide) none
  have hids : (requested service).ids = ["22222222"] := (List.cons.inj hfirst.ids).2.symm
  rw [← hfirst.files] at hcomplaint
  exact ⟨⟨dir, hfirst⟩, exists_requested hcomplaint hids (by decide) none⟩

theorem exists_moves_awaited (service : Service) :
    ∃ h, Moves (unanswered service) h (awaited service) ∧
      (h.map Prod.fst).Pairwise (· ≤ ·) := by
  obtain ⟨⟨dir, hfirst⟩, dir', hsecond⟩ := exists_requested_unanswered service
  have hclock : (requested service).world.clock = 5.0 := hfirst.clock
  have hclock' : (requestedTwice service).world.clock = 5.0 := hsecond.clock.trans hclock
  have hids : (requested service).ids ≠ [] := hsecond.ids ▸ List.cons_ne_nil _ _
  have htask : ((requestedTwice service).cancel "22222222").2.taskOf? "11111111"
      = some (service.runJob "11111111") := by
    rw [taskOf?_cancel, hsecond.tasks, if_neg (by decide), hfirst.tasks, if_pos rfl]
    rfl
  obtain ⟨h, hawait, htimes⟩ := moves_await htask rfl
  rw [clock_cancel, hclock'] at htimes
  have hmoves : Moves (unanswered service) _ (requested service) :=
    .single (.request "a.js" none (List.cons_ne_nil _ _))
  have hall := ((hmoves.tail (.request "a.js" none hids)).tail (.cancel "22222222")).trans hawait
  rw [clock_cancel] at hall
  refine ⟨_, hall, List.pairwise_of_forall_mem_list ?_⟩
  have hsame : ∀ x ∈ [((requested service).world.clock, Label.requested "a.js" none)]
      ++ [((requestedTwice service).world.clock, Label.requested "a.js" none)]
      ++ [((requestedTwice service).world.clock, Label.cancelled "22222222")] ++ h, x.1 = 5.0 := by
    intro x hx
    simp only [List.mem_append, List.mem_singleton] at hx
    rcases hx with ((rfl | rfl) | rfl) | hx
    · exact hclock
    · exact hclock'
    · exact hclock'
    · exact htimes x hx
  intro τ hτ τ' hτ'
  obtain ⟨x, hx, rfl⟩ := List.mem_map.mp hτ
  obtain ⟨x', hx', rfl⟩ := List.mem_map.mp hτ'
  rw [hsame x hx, hsame x' hx']
  decide

end Session

end Dissect
