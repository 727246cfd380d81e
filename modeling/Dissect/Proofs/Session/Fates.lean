import Dissect.Proofs.Session.Moves

namespace Dissect.Session

open Plan (Event Step Steps)
open Service (noteOf? notes Course)

variable {σ : Type} {s s' : Session σ} {h : History} {id : String}

def record (id sourcePath dir : String) (created : Float) (story : List (Float × Job.Event))
    (task : Task) : Job :=
  { (Job.queued id sourcePath dir created).replay story with
    task := some ⟨task.result?.isSome, false⟩ }

def lookupOf? (id : String) : Event TaskEffect → Option (Option Job)
  | .answered (.findJob id') found => if id' = id then some found else none
  | _ => none

/-- The job was there whenever its task looked for it. -/
def Found (id : String) (t : List (Event TaskEffect)) : Prop :=
  ∀ e ∈ t, lookupOf? id e ≠ some none

/-- The task of a job has taken its steps, and so far told of the job in a course. -/
structure Tracks (s : Session σ) (h : History) (id : String) (task : Task) : Prop where
  isTask : s.taskOf? id = some task
  steps : Steps (s.service.runJob id) (eventsOf id h) task
  found : Found id (eventsOf id h)

/-- What has become of the job of an identifier. -/
inductive Fate (s : Session σ) (h : History) (id : String) : Prop
  | unknown (hjob : s.world.jobs.find? id = none) (htask : s.taskOf? id = none)
      (hevents : eventsOf id h = [])
  | kept {sourcePath dir : String} {created : Float} {task : Task} (htracks : Tracks s h id task)
      (hjob : s.world.jobs.find? id = some (record id sourcePath dir created (storyOf id h) task))
      (htimes : (created :: (storyOf id h).map Prod.fst).Sublist (h.map Prod.fst))
  | cancelled {sourcePath dir : String} {created ended : Float} {task : Task}
      (htracks : Tracks s h id task)
      (hjob : s.world.jobs.find? id
        = some ((record id sourcePath dir created (storyOf id h) task).cancel ended))
      (hopen : (record id sourcePath dir created (storyOf id h) task).status.isOpen)
      (htimes : (created :: ((storyOf id h).map Prod.fst ++ [ended])).Sublist (h.map Prod.fst))

/-- All jobs are accounted for, and the identifiers to come are new ones. -/
structure Accounted (s : Session σ) (h : History) : Prop where
  fates : ∀ id, Fate s h id
  fresh : ∀ id ∈ s.ids, s.world.jobs.find? id = none
  nodup : s.ids.Nodup
  named : "" ∉ s.ids

/-- A session in which nothing has happened. -/
structure Fresh (s : Session σ) : Prop where
  jobs : s.world.jobs = []
  tasks : s.tasks = []
  nodup : s.ids.Nodup
  named : "" ∉ s.ids

theorem Fresh.accounted (hs : Fresh s) : Accounted s [] where
  fates id := by
    refine .unknown ?_ ?_ rfl
    · rw [hs.jobs]
      rfl
    · rw [taskOf?, hs.tasks]
      rfl
  fresh id _ := by
    rw [hs.jobs]
    rfl
  nodup := hs.nodup
  named := hs.named

theorem Tracks.course {task : Task} (h' : Tracks s h id task) :
    notes (eventsOf id h) = ((storyOf id h).map Prod.snd).map (id, ·) ∧
      Course ((storyOf id h).map Prod.snd) := by
  obtain ⟨es, hnotes, hcourse⟩ := Service.course_of_steps h'.steps
  rw [map_snd_storyOf_of_notes hnotes]
  exact ⟨hnotes, hcourse⟩

theorem Tracks.note_eq {task next : Task} {e : Option (Event TaskEffect)} {id' : String}
    {note : Job.Event} (h' : Tracks s h id task) (hstep : Step task e next)
    (he : e.bind noteOf? = some (id', note)) : id' = id := by
  obtain ⟨es, hnotes, -⟩ := Service.course_of_steps (h'.steps.trans (.single hstep))
  rw [Service.notes_append, Service.notes_toList, he] at hnotes
  have hmem : (id', note) ∈ es.map (id, ·) := by
    rw [← hnotes]
    exact List.mem_append_right _ List.mem_cons_self
  obtain ⟨d, -, hd⟩ := List.mem_map.mp hmem
  cases hd
  rfl

theorem Tracks.unchanged {task : Task} {l : Label} {time : Float} (h' : Tracks s h id task)
    (hservice : s'.service = s.service) (htask : s'.taskOf? id = s.taskOf? id)
    (hl : ∀ e, l ≠ .stepped id e) : Tracks s' (h ++ [(time, l)]) id task where
  isTask := htask.trans h'.isTask
  steps := by
    rw [hservice, eventsOf_other hl]
    exact h'.steps
  found := by
    rw [eventsOf_other hl]
    exact h'.found

theorem Fate.unchanged {l : Label} {time : Float} (fate : Fate s h id)
    (hservice : s'.service = s.service) (htask : s'.taskOf? id = s.taskOf? id)
    (hjobs : s'.world.jobs.find? id = s.world.jobs.find? id) (hl : ∀ e, l ≠ .stepped id e) :
    Fate s' (h ++ [(time, l)]) id := by
  have hlonger : (h.map Prod.fst).Sublist ((h ++ [(time, l)]).map Prod.fst) := by
    rw [List.map_append]
    exact List.sublist_append_left _ _
  cases fate with
  | unknown hjob hnone hevents =>
      exact .unknown (hjobs.trans hjob) (htask.trans hnone) (by rw [eventsOf_other hl, hevents])
  | kept htracks hjob htimes =>
      rw [← storyOf_other hl h time] at hjob htimes
      exact .kept (htracks.unchanged hservice htask hl) (hjobs.trans hjob) (htimes.trans hlonger)
  | cancelled htracks hjob hopen htimes =>
      rw [← storyOf_other hl h time] at hjob hopen htimes
      exact .cancelled (htracks.unchanged hservice htask hl) (hjobs.trans hjob) hopen
        (htimes.trans hlonger)

theorem Accounted.unchanged {l : Label} {time : Float} (hs : Accounted s h)
    (hservice : s'.service = s.service) (hids : s'.ids = s.ids)
    (htasks : ∀ id, s'.taskOf? id = s.taskOf? id)
    (hjobs : ∀ id, s'.world.jobs.find? id = s.world.jobs.find? id)
    (hl : ∀ id e, l ≠ .stepped id e) : Accounted s' (h ++ [(time, l)]) where
  fates id := (hs.fates id).unchanged hservice (htasks id) (hjobs id) (hl id)
  fresh := by
    intro id hid
    rw [hids] at hid
    rw [hjobs]
    exact hs.fresh id hid
  nodup := hids ▸ hs.nodup
  named := hids ▸ hs.named

theorem Accounted.eventsOf_eq_nil (hs : Accounted s h) (hid : id ∈ s.ids) :
    eventsOf id h = [] ∧ storyOf id h = [] := by
  have hnone := hs.fresh id hid
  cases hs.fates id with
  | unknown hjob htask hevents =>
      refine ⟨hevents, ?_⟩
      have hstory := map_snd_storyOf id h
      rw [hevents] at hstory
      exact List.map_eq_nil_iff.mp hstory
  | kept htracks hjob | cancelled htracks hjob =>
      rw [hnone] at hjob
      cases hjob

theorem Fate.of_requested {sourcePath dir : String} {l : Label} (hs : Accounted s h)
    (hrequested : Requested s s' id sourcePath dir) (hl : ∀ e, l ≠ .stepped id e) :
    Fate s' (h ++ [(s'.world.clock, l)]) id := by
  obtain ⟨hevents, hstory⟩ := hs.eventsOf_eq_nil (hrequested.ids ▸ List.mem_cons_self)
  rw [← eventsOf_other hl h s'.world.clock] at hevents
  rw [← storyOf_other hl h s'.world.clock] at hstory
  have htracks : Tracks s' (h ++ [(s'.world.clock, l)]) id (s.service.runJob id) := by
    refine ⟨(hrequested.tasks id).trans (if_pos rfl), ?_, ?_⟩
    · rw [hevents, hrequested.service]
      exact .refl _
    · rw [hevents]
      exact fun _ hmem => nomatch hmem
  have hjob : s'.world.jobs.find? id = some (record id sourcePath dir s.world.clock
      (storyOf id (h ++ [(s'.world.clock, l)])) (s.service.runJob id)) := by
    rw [hstory, hrequested.jobs, if_pos rfl]
    rfl
  refine .kept htracks hjob ?_
  rw [hstory, List.map_append, hrequested.clock]
  exact List.sublist_append_right _ _

theorem accounted_request (hs : Accounted s h) (sourcePath : String) (runName : Option String)
    (hids : s.ids ≠ []) :
    Accounted (s.start sourcePath runName).2
      (h ++ [((s.start sourcePath runName).2.world.clock, .requested sourcePath runName)]) := by
  have hl : ∀ id e, Label.requested sourcePath runName ≠ .stepped id e := fun _ _ h => nomatch h
  by_cases hcomplaint : Service.complaint s.world.files sourcePath = .ok none
  swap
  · rw [start_of_not_none hcomplaint]
    exact hs.unchanged rfl rfl (fun _ => rfl) (fun _ => rfl) hl
  obtain ⟨id, rest, hcons⟩ := List.exists_cons_of_ne_nil hids
  have hid : id ≠ "" := fun heq => hs.named (heq ▸ hcons ▸ List.mem_cons_self)
  obtain ⟨dir, hrequested⟩ := exists_requested hcomplaint hcons hid runName
  obtain ⟨hnotMem, hnodup⟩ := List.nodup_cons.mp (hrequested.ids ▸ hs.nodup)
  have hlater : ∀ id' ∈ (s.start sourcePath runName).2.ids, id' ∈ s.ids := fun id' hid' =>
    hrequested.ids ▸ List.mem_cons_of_mem id hid'
  refine ⟨?_, ?_, hnodup, fun hnamed => hs.named (hlater "" hnamed)⟩
  · intro id'
    by_cases hne : id' = id
    · subst hne
      exact .of_requested hs hrequested (hl id')
    · exact (hs.fates id').unchanged hrequested.service
        ((hrequested.tasks id').trans (if_neg hne)) ((hrequested.jobs id').trans (if_neg hne))
        (hl id')
  · intro id' hid'
    have hne : id' ≠ id := fun heq => hnotMem (heq ▸ hid')
    exact ((hrequested.jobs id').trans (if_neg hne)).trans (hs.fresh id' (hlater id' hid'))

theorem Fate.of_cancel (fate : Fate s h id) :
    Fate (s.cancel id).2 (h ++ [((s.cancel id).2.world.clock, .cancelled id)]) id := by
  have hl : ∀ e, Label.cancelled id ≠ .stepped id e := fun _ h => nomatch h
  have hclosed {job : Job} (hjob : s.world.jobs.find? id = some job)
      (hstatus : job.status.isOpen = false) :
      Fate (s.cancel id).2 (h ++ [((s.cancel id).2.world.clock, .cancelled id)]) id := by
    refine fate.unchanged rfl rfl ?_ hl
    exact congrArg (Job.Registry.find? · id) (Job.Registry.cancel_closed hjob hstatus s.world.clock)
  cases fate with
  | unknown hjob htask hevents =>
      refine (Fate.unknown hjob htask hevents).unchanged rfl rfl ?_ hl
      exact congrArg (Job.Registry.find? · id) (Job.Registry.cancel_none hjob s.world.clock)
  | @kept sourcePath dir created task htracks hjob htimes =>
      cases hopen : (record id sourcePath dir created (storyOf id h) task).status.isOpen with
      | false => exact hclosed hjob hopen
      | true =>
          have hcancelled := Job.Registry.find?_cancel_open hjob hopen s.world.clock
          rw [← storyOf_other hl h s.world.clock] at hcancelled hopen htimes
          refine .cancelled (htracks.unchanged rfl rfl hl) hcancelled hopen ?_
          rw [List.map_append]
          exact htimes.append (List.Sublist.refl [s.world.clock])
  | cancelled htracks hjob hopen htimes => exact hclosed hjob rfl

theorem accounted_cancel (hs : Accounted s h) (id : String) :
    Accounted (s.cancel id).2 (h ++ [((s.cancel id).2.world.clock, .cancelled id)]) := by
  have hother {id' : String} (hne : id' ≠ id) :
      (s.cancel id).2.world.jobs.find? id' = s.world.jobs.find? id' :=
    Job.Registry.find?_cancel_of_ne hne s.world.clock
  refine ⟨?_, ?_, hs.nodup, hs.named⟩
  · intro id'
    by_cases hne : id' = id
    · subst hne
      exact (hs.fates id').of_cancel
    · exact (hs.fates id').unchanged rfl rfl (hother hne) fun _ h => nomatch h
  · intro id' hid'
    by_cases hne : id' = id
    · subst hne
      have hnone := hs.fresh id' hid'
      exact (congrArg (Job.Registry.find? · id')
        (Job.Registry.cancel_none hnone s.world.clock)).trans hnone
    · exact (hother hne).trans (hs.fresh id' hid')

theorem result?_of_step {α : Type} {p q : Plan TaskEffect α} {e : Option (Event TaskEffect)}
    (hstep : Step p e q) : p.result? = none := by
  cases hstep <;> rfl

theorem isCancelled_of_cancel {job : Job} {time : Float} {task next : Task}
    {e : Option (Event TaskEffect)}
    (hjob : s.world.jobs.find? id = some (job.cancel time))
    (hmark : job.task = some ⟨task.result?.isSome, false⟩) (hstep : Step task e next) :
    s.isCancelled id = true := by
  rw [result?_of_step hstep] at hmark
  rw [isCancelled, hjob, Job.cancel, hmark]
  rfl

section Step

variable {sourcePath dir : String} {created : Float} {task next : Task}
  {e : Option (Event TaskEffect)} {world : Surroundings σ}

theorem find?_of_reacts_self (htracks : Tracks s h id task) (hstep : Step task e next)
    (hworld : s.world.Reacts e world)
    (hjob : s.world.jobs.find? id
      = some (record id sourcePath dir created (storyOf id h) task)) :
    world.jobs.find? id = some (record id sourcePath dir created
      (storyOf id (h ++ [(s.world.clock, .stepped id e)])) task) := by
  rw [storyOf_step]
  cases hnote : e.bind noteOf? with
  | none =>
      rw [jobs_of_reacts_none hworld hnote, Option.map_none, Option.toList_none, List.append_nil]
      exact hjob
  | some note =>
      obtain ⟨id', note⟩ := note
      obtain rfl := htracks.note_eq hstep hnote
      rw [jobs_of_reacts_some hworld hnote, Job.Registry.apply, Job.Registry.find?_modify_self hjob,
        Option.map_some, Option.toList_some, record, record, Job.replay_concat]
      cases note <;> rfl

theorem find?_of_reacts_of_ne (htracks : Tracks s h id task) (hstep : Step task e next)
    (hworld : s.world.Reacts e world) {id' : String} (hne : id' ≠ id) :
    world.jobs.find? id' = s.world.jobs.find? id' := by
  cases hnote : e.bind noteOf? with
  | none => rw [jobs_of_reacts_none hworld hnote]
  | some note =>
      obtain ⟨id'', note⟩ := note
      obtain rfl := htracks.note_eq hstep hnote
      rw [jobs_of_reacts_some hworld hnote, Job.Registry.apply,
        Job.Registry.find?_modify_of_ne hne]

theorem find?_of_step (htracks : Tracks s h id task) (hstep : Step task e next)
    (hworld : s.world.Reacts e world)
    (hjob : s.world.jobs.find? id
      = some (record id sourcePath dir created (storyOf id h) task)) :
    (s.keepTask id ⟨next, s.world.clock, world⟩).world.jobs.find? id = some (record id sourcePath
      dir created (storyOf id (h ++ [(s.world.clock, .stepped id e)])) next) := by
  rw [find?_keepTask_self s id ⟨next, s.world.clock, world⟩
    (find?_of_reacts_self htracks hstep hworld hjob)]
  simp only [record, result?_of_step hstep, Option.isSome_none, markEnded, Option.map_some]
  cases next.result?.isSome <;> rfl

theorem find?_of_step_of_ne (htracks : Tracks s h id task) (hstep : Step task e next)
    (hworld : s.world.Reacts e world) {id' : String} (hne : id' ≠ id) :
    (s.keepTask id ⟨next, s.world.clock, world⟩).world.jobs.find? id'
      = s.world.jobs.find? id' :=
  (find?_keepTask_of_ne s id _ hne).trans (find?_of_reacts_of_ne htracks hstep hworld hne)

theorem found_of_reacts (hfound : Found id (eventsOf id h)) {job : Job}
    (hjob : s.world.jobs.find? id = some job) (hworld : s.world.Reacts e world) (time : Float) :
    Found id (eventsOf id (h ++ [(time, .stepped id e)])) := by
  intro d hd
  rw [eventsOf_step] at hd
  rcases List.mem_append.mp hd with hd | hd
  · exact hfound d hd
  · obtain rfl := Option.mem_toList.mp hd
    cases hworld with
    | begun x => exact nofun
    | run x b => exact nofun
    | track id' e b => exact nofun
    | findJob id' =>
        rw [lookupOf?]
        split
        · rename_i heq
          rw [heq, hjob]
          exact nofun
        · exact nofun

theorem Tracks.step (htracks : Tracks s h id task) {job : Job}
    (hjob : s.world.jobs.find? id = some job) (hstep : Step task e next)
    (hworld : s.world.Reacts e world) (time : Float) :
    Tracks (s.keepTask id ⟨next, s.world.clock, world⟩) (h ++ [(time, .stepped id e)]) id next where
  isTask := taskOf?_keepTask_self s id _
  steps := by
    rw [service_keepTask, eventsOf_step]
    exact htracks.steps.trans (.single hstep)
  found := found_of_reacts htracks.found hjob hworld time

end Step

theorem Accounted.exists_kept {task next : Task} {e : Option (Event TaskEffect)}
    (hs : Accounted s h) (htask : s.taskOf? id = some task) (hcancelled : s.isCancelled id = false)
    (hstep : Step task e next) :
    Tracks s h id task ∧ ∃ sourcePath dir created,
      s.world.jobs.find? id = some (record id sourcePath dir created (storyOf id h) task) ∧
      (created :: (storyOf id h).map Prod.fst).Sublist (h.map Prod.fst) := by
  cases hs.fates id with
  | unknown _ hnone =>
      rw [htask] at hnone
      cases hnone
  | cancelled htracks hjob =>
      obtain rfl := Option.some.inj (htask.symm.trans htracks.isTask)
      rw [isCancelled_of_cancel hjob rfl hstep] at hcancelled
      cases hcancelled
  | kept htracks hjob htimes =>
      obtain rfl := Option.some.inj (htask.symm.trans htracks.isTask)
      exact ⟨htracks, _, _, _, hjob, htimes⟩

theorem accounted_step {task next : Task} {e : Option (Event TaskEffect)} {world : Surroundings σ}
    (hs : Accounted s h) (htask : s.taskOf? id = some task) (hcancelled : s.isCancelled id = false)
    (hstep : Step task e next) (hworld : s.world.Reacts e world) :
    Accounted (s.keepTask id ⟨next, s.world.clock, world⟩)
      (h ++ [((s.keepTask id ⟨next, s.world.clock, world⟩).world.clock, .stepped id e)]) := by
  obtain ⟨htracks, sourcePath, dir, created, hjob, htimes⟩ := hs.exists_kept htask hcancelled hstep
  rw [clock_keepTask, clock_of_reacts hworld]
  refine ⟨?_, ?_, ?_, ?_⟩
  · intro id'
    by_cases hne : id' = id
    · subst hne
      refine .kept (htracks.step hjob hstep hworld s.world.clock)
        (find?_of_step htracks hstep hworld hjob) ?_
      rw [storyOf_step, List.map_append, List.map_append, ← List.cons_append]
      refine htimes.append ?_
      cases e.bind noteOf? with
      | none => exact List.nil_sublist _
      | some note => exact List.Sublist.refl _
    · refine (hs.fates id').unchanged (service_keepTask s id _)
        (taskOf?_keepTask_of_ne s id _ hne) (find?_of_step_of_ne htracks hstep hworld hne) ?_
      intro e' heq
      cases heq
      exact hne rfl
  · intro id' hid'
    rw [ids_keepTask] at hid'
    have hnone := hs.fresh id' hid'
    have hne : id' ≠ id := by
      rintro rfl
      rw [hnone] at hjob
      cases hjob
    exact (find?_of_step_of_ne htracks hstep hworld hne).trans hnone
  · rw [ids_keepTask]
    exact hs.nodup
  · rw [ids_keepTask]
    exact hs.named

theorem Accounted.move {l : Label} (hs : Accounted s h) (hmove : Move s l s') :
    Accounted s' (h ++ [(s'.world.clock, l)]) := by
  cases hmove with
  | elapse hjobs htasks =>
      exact hs.unchanged rfl rfl htasks (fun _ => by rw [hjobs]) fun _ _ h => nomatch h
  | request sourcePath runName hids => exact accounted_request hs sourcePath runName hids
  | cancel id => exact accounted_cancel hs id
  | step htask hcancelled hstep hworld =>
      exact accounted_step hs htask hcancelled hstep hworld

/-- Whatever happens, all jobs stay accounted for. -/
theorem Accounted.moves {k : History} (hs : Accounted s h) (hmoves : Moves s k s') :
    Accounted s' (h ++ k) := by
  induction hmoves with
  | refl =>
      rw [List.append_nil]
      exact hs
  | tail _ last ih =>
      rw [← List.append_assoc]
      exact ih.move last

end Dissect.Session
