import Dissect.Proofs.Outcome
import Dissect.Proofs.Service.Lawful
import Dissect.Session

/-!
A session move by move: time passes, jobs are requested and cancelled, and the tasks of jobs take
their steps, in any order. A task that was told to stop takes no more steps.
-/

namespace Dissect

open Plan (Event Step)
open Service (noteOf? notes)

/-- How the surroundings of a task take part in its steps. Jobs are found and changed; whatever
else is asked is answered in any way. -/
inductive Surroundings.Reacts {σ : Type} (w : Surroundings σ) :
    Option (Event TaskEffect) → Surroundings σ → Prop
  | silent : Reacts w none w
  | begun {β : Type} (x : TaskEffect β) {w' : Surroundings σ} (hjobs : w'.jobs = w.jobs)
      (hclock : w'.clock = w.clock) : Reacts w (some (.begun x)) w'
  | run {β : Type} (x : Effect β) (b : β) {w' : Surroundings σ} (hjobs : w'.jobs = w.jobs)
      (hclock : w'.clock = w.clock) : Reacts w (some (.answered (.run x) b)) w'
  | findJob (id : String) : Reacts w (some (.answered (.findJob id) (w.jobs.find? id))) w
  | track (id : String) (e : Job.Event) (b : Unit) :
      Reacts w (some (.answered (.track id e) b)) { w with jobs := w.jobs.apply id w.clock e }

namespace Session

variable {σ : Type}

/-- What happens in a session. -/
inductive Label
  | elapsed
  | requested (sourcePath : String) (runName : Option String)
  | cancelled (id : String)
  | stepped (id : String) (e : Option (Event TaskEffect))

def Label.subject? : Label → Option String
  | .cancelled id => some id
  | .stepped id _ => some id
  | _ => none

def taskOf? (s : Session σ) (id : String) : Option Task :=
  (s.tasks.find? (·.1 == id)).map (·.2)

/-- One move of a session. While time passes, anything but the jobs and their tasks may change. A
request needs an identifier for its job. -/
inductive Move (s : Session σ) : Label → Session σ → Prop
  | elapse {world : Surroundings σ} {tasks : List (String × Task)}
      (hjobs : world.jobs = s.world.jobs)
      (htasks : ∀ id, taskOf? { s with tasks } id = s.taskOf? id) :
      Move s .elapsed { s with world, tasks }
  | request (sourcePath : String) (runName : Option String) (hids : s.ids ≠ []) :
      Move s (.requested sourcePath runName) (s.start sourcePath runName).2
  | cancel (id : String) : Move s (.cancelled id) (s.cancel id).2
  | step {id : String} {task next : Task} {e : Option (Event TaskEffect)}
      {world : Surroundings σ} (htask : s.taskOf? id = some task)
      (hcancelled : s.isCancelled id = false) (hstep : Step task e next)
      (hworld : s.world.Reacts e world) :
      Move s (.stepped id e) (s.keepTask id ⟨next, s.world.clock, world⟩)

/-- What has happened, and when. -/
abbrev History := List (Float × Label)

inductive Moves (s : Session σ) : History → Session σ → Prop
  | refl : Moves s [] s
  | tail {h : History} {s' s'' : Session σ} {l : Label} (earlier : Moves s h s')
      (last : Move s' l s'') : Moves s (h ++ [(s''.world.clock, l)]) s''

theorem Moves.single {s s' : Session σ} {l : Label} (h : Move s l s') :
    Moves s [(s'.world.clock, l)] s' :=
  .tail .refl h

theorem Moves.trans {s s' s'' : Session σ} {h k : History} (hs : Moves s h s')
    (hs' : Moves s' k s'') : Moves s (h ++ k) s'' := by
  induction hs' with
  | refl =>
      rw [List.append_nil]
      exact hs
  | tail _ last ih =>
      rw [← List.append_assoc]
      exact ih.tail last

def stepsOf (id : String) (h : History) : List (Float × Option (Event TaskEffect)) :=
  h.filterMap fun
    | (time, .stepped id' e) => if id' = id then some (time, e) else none
    | _ => none

def eventsOf (id : String) (h : History) : List (Event TaskEffect) :=
  (stepsOf id h).filterMap (·.2)

/-- What the task of a job has told of it, and when. -/
def storyOf (id : String) (h : History) : List (Float × Job.Event) :=
  (stepsOf id h).filterMap fun x => (x.2.bind noteOf?).map fun note => (x.1, note.2)

theorem stepsOf_step (id : String) (h : History) (time : Float) (e : Option (Event TaskEffect)) :
    stepsOf id (h ++ [(time, .stepped id e)]) = stepsOf id h ++ [(time, e)] := by
  rw [stepsOf, List.filterMap_append, stepsOf, List.filterMap_cons]
  simp only [if_true, List.filterMap_nil]

theorem stepsOf_other {id : String} {l : Label} (hl : ∀ e, l ≠ .stepped id e) (h : History)
    (time : Float) : stepsOf id (h ++ [(time, l)]) = stepsOf id h := by
  rw [stepsOf, List.filterMap_append, stepsOf, List.filterMap_cons]
  cases l with
  | stepped id' e =>
      have hne : id' ≠ id := fun heq => hl e (heq ▸ rfl)
      simp only [hne, if_false, List.filterMap_nil, List.append_nil]
  | elapsed | requested | cancelled => exact List.append_nil _

theorem eventsOf_step (id : String) (h : History) (time : Float) (e : Option (Event TaskEffect)) :
    eventsOf id (h ++ [(time, .stepped id e)]) = eventsOf id h ++ e.toList := by
  rw [eventsOf, stepsOf_step, List.filterMap_append, eventsOf]
  cases e <;> rfl

theorem storyOf_step (id : String) (h : History) (time : Float) (e : Option (Event TaskEffect)) :
    storyOf id (h ++ [(time, .stepped id e)])
      = storyOf id h ++ ((e.bind noteOf?).map fun note => (time, note.2)).toList := by
  rw [storyOf, stepsOf_step, List.filterMap_append, storyOf, List.filterMap_cons]
  cases (e.bind noteOf?).map fun note => (time, note.2) <;> rfl

theorem eventsOf_other {id : String} {l : Label} (hl : ∀ e, l ≠ .stepped id e) (h : History)
    (time : Float) : eventsOf id (h ++ [(time, l)]) = eventsOf id h := by
  rw [eventsOf, stepsOf_other hl, eventsOf]

theorem storyOf_other {id : String} {l : Label} (hl : ∀ e, l ≠ .stepped id e) (h : History)
    (time : Float) : storyOf id (h ++ [(time, l)]) = storyOf id h := by
  rw [storyOf, stepsOf_other hl, storyOf]

theorem map_snd_storyOf (id : String) (h : History) :
    (storyOf id h).map Prod.snd = (notes (eventsOf id h)).map Prod.snd := by
  rw [storyOf, notes, eventsOf, List.filterMap_filterMap, List.map_filterMap, List.map_filterMap]
  congr 1
  funext x
  exact Option.map_map _ _ _

theorem map_snd_storyOf_of_notes {id : String} {h : History} {es : List Job.Event}
    (hnotes : notes (eventsOf id h) = es.map (id, ·)) : (storyOf id h).map Prod.snd = es := by
  rw [map_snd_storyOf, hnotes, List.map_map]
  exact List.map_id' es

theorem clock_of_reacts {w w' : Surroundings σ} {e : Option (Event TaskEffect)}
    (h : w.Reacts e w') : w'.clock = w.clock := by
  cases h with
  | begun x hjobs hclock | run x b hjobs hclock => exact hclock
  | silent | findJob | track => rfl

theorem jobs_of_reacts_none {w w' : Surroundings σ} {e : Option (Event TaskEffect)}
    (h : w.Reacts e w') (he : e.bind noteOf? = none) : w'.jobs = w.jobs := by
  cases h with
  | begun x hjobs hclock | run x b hjobs hclock => exact hjobs
  | silent | findJob => rfl
  | track id e b => cases he

theorem jobs_of_reacts_some {w w' : Surroundings σ} {e : Option (Event TaskEffect)} {id : String}
    {note : Job.Event} (h : w.Reacts e w') (he : e.bind noteOf? = some (id, note)) :
    w'.jobs = w.jobs.apply id w.clock note := by
  cases h with
  | run | silent | begun | findJob => cases he
  | track id e b =>
      cases he
      rfl

def markEnded (job : Job) : Job :=
  { job with task := job.task.map fun mark => { mark with ended := true } }

section KeepTask

variable (s : Session σ) (id : String)
  (p : Plan.Progress TaskEffect (Surroundings σ) (Except ServiceError Json))

@[simp] theorem service_keepTask : (s.keepTask id p).service = s.service := by
  rw [keepTask]
  split <;> rfl

@[simp] theorem ids_keepTask : (s.keepTask id p).ids = s.ids := by
  rw [keepTask]
  split <;> rfl

@[simp] theorem clock_keepTask : (s.keepTask id p).world.clock = p.state.clock := by
  rw [keepTask]
  split <;> rfl

theorem tasks_keepTask :
    (s.keepTask id p).tasks = (id, p.plan) :: s.tasks.filter (·.1 != id) := by
  rw [keepTask]
  split <;> rfl

theorem taskOf?_keepTask_self : (s.keepTask id p).taskOf? id = some p.plan := by
  rw [taskOf?, tasks_keepTask, List.find?_cons, BEq.rfl]
  rfl

theorem taskOf?_keepTask_of_ne {id' : String} (hne : id' ≠ id) :
    (s.keepTask id p).taskOf? id' = s.taskOf? id' := by
  have hsame : (s.tasks.filter (·.1 != id)).find? (·.1 == id') = s.tasks.find? (·.1 == id') := by
    rw [List.find?_filter]
    congr 1
    funext entry
    by_cases h : entry.1 = id'
    · simp [h, hne]
    · simp [h]
  rw [taskOf?, tasks_keepTask, List.find?_cons, beq_false_of_ne hne.symm, taskOf?]
  simp only [hsame]

theorem jobs_keepTask : (s.keepTask id p).world.jobs
    = if p.plan.result?.isSome then p.state.jobs.modify id markEnded else p.state.jobs := by
  rw [keepTask]
  split <;> rfl

theorem find?_keepTask_self {job : Job} (hjob : p.state.jobs.find? id = some job) :
    (s.keepTask id p).world.jobs.find? id
      = some (if p.plan.result?.isSome then markEnded job else job) := by
  rw [jobs_keepTask]
  split
  · exact Job.Registry.find?_modify_self hjob markEnded
  · exact hjob

theorem find?_keepTask_of_ne {id' : String} (hne : id' ≠ id) :
    (s.keepTask id p).world.jobs.find? id' = p.state.jobs.find? id' := by
  rw [jobs_keepTask]
  split
  · exact Job.Registry.find?_modify_of_ne hne markEnded
  · rfl

end KeepTask

theorem start_of_not_none {s : Session σ} {sourcePath : String}
    (h : Service.complaint s.world.files sourcePath ≠ .ok none) (runName : Option String) :
    (s.start sourcePath runName).2 = s := by
  unfold start
  generalize Service.complaint s.world.files sourcePath = answer at h
  match answer with
  | .error f => rfl
  | .ok (some reason) => rfl
  | .ok none => exact absurd rfl h

structure Requested (s s' : Session σ) (id sourcePath dir : String) : Prop where
  service : s'.service = s.service
  clock : s'.world.clock = s.world.clock
  files : s'.world.files = s.world.files
  ids : s.ids = id :: s'.ids
  tasks : ∀ id', s'.taskOf? id' = if id' = id then some (s.service.runJob id) else s.taskOf? id'
  jobs : ∀ id', s'.world.jobs.find? id' = if id' = id
    then some { Job.queued id sourcePath dir s.world.clock with task := some ⟨false, false⟩ }
    else s.world.jobs.find? id'

theorem addJob_some (s : Session σ) (sourcePath outputDir : String) {id : String} (h : id ≠ "") :
    s.addJob sourcePath outputDir (some id) = (id, { s with world := { s.world with
      jobs := s.world.jobs.put (.queued id sourcePath outputDir s.world.clock) } }) := by
  rw [addJob, filter_some_of_ne_empty h]

def startedJob (s : Session σ) (sourcePath : String) (runName : Option String) : Job :=
  { Job.queued s.takeId.1 sourcePath
      (s.service.jobDirectory sourcePath runName s.takeId.1).toText s.world.clock with
    task := some ⟨false, false⟩ }

/-- A job that is started has the next identifier, and the directory that goes with it. -/
theorem start_of_complaint {s : Session σ} {sourcePath : String}
    (h : Service.complaint s.world.files sourcePath = .ok none) (hid : s.takeId.1 ≠ "")
    (runName : Option String) :
    let job := s.startedJob sourcePath runName
    let queued := Job.queued s.takeId.1 sourcePath
      (s.service.jobDirectory sourcePath runName s.takeId.1).toText s.world.clock
    let jobs := (s.world.jobs.put queued).modify s.takeId.1 fun job =>
      { job with task := some ⟨false, false⟩ }
    s.start sourcePath runName = (.ok (Service.startedAnswer job), { s with
      ids := s.ids.tail
      tasks := (s.takeId.1, s.service.runJob s.takeId.1) :: s.tasks
      world := { s.world with jobs } }) := by
  intro job queued jobs
  have hfind : jobs.find? s.takeId.1 = some job :=
    (Job.Registry.find?_put_modify s.world.jobs queued _ s.takeId.1).trans (if_pos rfl)
  unfold start
  generalize Service.complaint s.world.files sourcePath = answer at h
  subst h
  simp only [addJob_some _ _ _ hid, modifyJob]
  split
  · rename_i found hfound
    rw [Option.some.inj (hfound.symm.trans hfind)]
    rfl
  · rename_i hnone
    cases hnone.symm.trans hfind

theorem exists_requested {s : Session σ} {sourcePath id : String} {rest : List String}
    (h : Service.complaint s.world.files sourcePath = .ok none) (hids : s.ids = id :: rest)
    (hid : id ≠ "") (runName : Option String) :
    ∃ dir, Requested s (s.start sourcePath runName).2 id sourcePath dir := by
  have hnext : s.takeId.1 = id := by rw [takeId, hids, List.headD_cons]
  have hstart := start_of_complaint h (hnext ▸ hid) runName
  rw [hnext, hids] at hstart
  rw [hstart]
  refine ⟨(s.service.jobDirectory sourcePath runName id).toText, rfl, rfl, rfl, hids, ?_, ?_⟩
  · intro id'
    rw [taskOf?, List.find?_cons]
    by_cases hne : id' = id
    · rw [if_pos hne, hne, BEq.rfl]
      rfl
    · rw [if_neg hne, beq_false_of_ne (Ne.symm hne)]
      rfl
  · intro id'
    exact Job.Registry.find?_put_modify s.world.jobs (.queued id sourcePath _ s.world.clock)
      (fun job => { job with task := some ⟨false, false⟩ }) id'

theorem taskOf?_cancel (s : Session σ) (id id' : String) :
    (s.cancel id).2.taskOf? id' = s.taskOf? id' := rfl

theorem clock_cancel (s : Session σ) (id : String) :
    (s.cancel id).2.world.clock = s.world.clock := rfl

theorem jobs_cancel (s : Session σ) (id : String) :
    (s.cancel id).2.world.jobs = (s.world.jobs.cancel id s.world.clock).1 := rfl

end Session

end Dissect
