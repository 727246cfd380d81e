import Dissect.Proofs.Path
import Dissect.Proofs.Service.Requests

namespace Dissect.Session

open Plan (Event Runs Along)

variable {σ : Type} {s s' : Session σ}

def partition? (s : Session σ) (sourcePath : String) : Option Partition := do
  let content ← (s.world.files.read (.ofText sourcePath)).toOption
  (Partition.split s.service.runner.parse s.service.runner.strict content
    (Path.ofText sourcePath).name).toOption

/-- A run that has finished: its directory, its partition, and its job in the background. -/
structure Finished where
  dir : Path
  partition : Partition
  job? : Option String

/-- A run finishes with success: at once, or as a job that is started and then awaited. -/
inductive Finishes (s : Session σ) : Finished → Session σ → Prop
  | foreground {sourcePath : String} {runName : Option String} {partition : Partition}
      {fields : List (String × Json)} {s' : Session σ}
      (hpartition : s.partition? sourcePath = some partition)
      (hended : s.dissect sourcePath runName = (.ended (.ok (Service.success fields)), s')) :
      Finishes s
        ⟨Service.runDirectory s.service.outputRoot sourcePath runName, partition, none⟩ s'
  | background {sourcePath : String} {runName : Option String} {partition : Partition} {job : Job}
      {fields : List (String × Json)} {s₁ s' : Session σ}
      (hpartition : s.partition? sourcePath = some partition)
      (hstarted : s.start sourcePath runName = (.ok (Service.startedAnswer job), s₁))
      (hended : s₁.await job.id = (.ended (.ok (Service.success fields)), s')) :
      Finishes s
        ⟨s.service.jobDirectory sourcePath runName s.takeId.1, partition, some job.id⟩ s'

def IsRunDirectory (t : Service) (dir : Path) : Prop :=
  ∃ name, dir = t.outputRoot.join [Partition.fileStem name]

/-- A finished run has filled its directory, and is found there by its job. -/
structure Filled (s : Session σ) (r : Finished) (s' : Session σ) : Prop where
  service : s'.service = s.service
  dir : IsRunDirectory s.service r.dir
  fills : ∃ artifacts, Runner.Fills s.service.runner ⟨r.dir, s.service.runner.stubs⟩ r.partition
    r.partition.sourceFile s.world.files s'.world.files artifacts
  job : ∀ id, r.job? = some id →
    ∃ job, s'.world.jobs.find? id = some job ∧ Path.ofText job.outputDir = r.dir

theorem exists_runs_of_carryOut {task : Task} {outcome : Except ServiceError Json}
    (h : (Plan.carryOut (Surroundings.tasks s.calls) task s.world).plan.result? = some outcome) :
    ∃ t, Runs task t outcome ∧ Along Surroundings.Undergoes s.world t
      (Plan.carryOut (Surroundings.tasks s.calls) task s.world).state := by
  have hdrives := Plan.drives_carryOut (Surroundings.fits_undergoes s.calls) task s.world
  rw [Plan.eq_done_of_result? h] at hdrives
  obtain ⟨t, hsteps, halong⟩ := hdrives.exists_along fun hsilent => hsilent.1.eq_of_silent
  exact ⟨t, Plan.steps_done_iff.mp hsteps, halong⟩

theorem exists_runs_of_foreground {task : Task} {outcome : Except ServiceError Json}
    (h : s.foreground task = (.ended outcome, s')) :
    ∃ t w, Runs task t outcome ∧ Along Surroundings.Undergoes s.world t w ∧
      s' = { s with world := w } := by
  rw [foreground] at h
  obtain ⟨houtcome, rfl⟩ := Prod.mk.inj h
  split at houtcome
  · rename_i outcome' hresult
    cases houtcome
    obtain ⟨t, hruns, halong⟩ := exists_runs_of_carryOut hresult
    exact ⟨t, _, hruns, halong, rfl⟩
  · cases houtcome

theorem exists_runs_of_await {id : String} {task : Task} {outcome : Except ServiceError Json}
    (h : s.await id = (.ended outcome, s')) (htask : s.taskOf? id = some task) :
    ∃ t p, Runs task t outcome ∧ Along Surroundings.Undergoes s.world t p.state ∧
      s' = s.keepTask id p := by
  obtain ⟨⟨k, task'⟩, hfind, rfl⟩ := Option.map_eq_some_iff.mp htask
  rw [await] at h
  split at h
  · cases (Prod.mk.inj h).1
  · rw [hfind] at h
    obtain ⟨houtcome, rfl⟩ := Prod.mk.inj h
    split at houtcome
    · rename_i outcome' hresult
      cases houtcome
      obtain ⟨t, hruns, halong⟩ := exists_runs_of_carryOut hresult
      exact ⟨t, _, hruns, halong, rfl⟩
    · cases houtcome

theorem files_keepTask (s : Session σ) (id : String)
    (p : Plan.Progress TaskEffect (Surroundings σ) (Except ServiceError Json)) :
    (s.keepTask id p).world.files = p.state.files := by
  rw [keepTask]
  split <;> rfl

theorem outputDir_keepTask (s : Session σ) (id : String)
    (p : Plan.Progress TaskEffect (Surroundings σ) (Except ServiceError Json)) (id' : String) :
    ((s.keepTask id p).world.jobs.find? id').map (·.outputDir)
      = (p.state.jobs.find? id').map (·.outputDir) := by
  rw [jobs_keepTask]
  split
  · rw [Job.Registry.find?_modify]
    split
    · rename_i heq
      subst heq
      rw [Option.map_map]
      rfl
    · rfl
  · rfl

theorem addJob_eq (s : Session σ) (sourcePath outputDir : String) (id? : Option String) :
    ∃ id ids, s.addJob sourcePath outputDir id? = (id, { s with
      ids
      world := { s.world with
        jobs := s.world.jobs.put (.queued id sourcePath outputDir s.world.clock) } }) := by
  rw [addJob]
  cases id?.filter (!·.isEmpty) with
  | some id => exact ⟨id, s.ids, rfl⟩
  | none => exact ⟨_, _, rfl⟩

theorem start_eq {sourcePath : String} (runName : Option String)
    (h : Service.complaint s.world.files sourcePath = .ok none) :
    ∃ job ids jobs, s.start sourcePath runName = (.ok (Service.startedAnswer job), { s with
        ids
        world := { s.world with jobs }
        tasks := (job.id, s.service.runJob job.id) :: s.tasks }) ∧
      jobs.find? job.id = some job ∧ job.sourcePath = sourcePath ∧
      job.outputDir = (s.service.jobDirectory sourcePath runName s.takeId.1).toText := by
  unfold start
  generalize Service.complaint s.world.files sourcePath = answer at h
  subst h
  dsimp only
  change ∃ (job : Job) (_ : _) (_ : _), _ ∧ _ ∧ _ ∧
    job.outputDir = (s.takeId.2.service.jobDirectory sourcePath runName s.takeId.1).toText
  generalize (s.takeId.2.service.jobDirectory sourcePath runName s.takeId.1).toText = dir
  obtain ⟨id, ids, hadd⟩ := addJob_eq s.takeId.2 sourcePath dir (some s.takeId.1)
  simp only [hadd, modifyJob]
  let job : Job := { Job.queued id sourcePath dir s.world.clock with task := some ⟨false, false⟩ }
  have hfind : (Job.Registry.modify id (fun job => { job with task := some ⟨false, false⟩ })
      (Job.Registry.put (.queued id sourcePath dir s.takeId.2.world.clock)
        s.takeId.2.world.jobs)).find? id = some job :=
    (Job.Registry.find?_put_modify s.world.jobs (.queued id sourcePath dir s.world.clock) _
      id).trans (if_pos rfl)
  simp only [hfind]
  exact ⟨job, ids, _, rfl, hfind, rfl, rfl⟩

structure Starts (s : Session σ) (sourcePath dir : String) (id : String) (s' : Session σ) :
    Prop where
  service : s'.service = s.service
  files : s'.world.files = s.world.files
  task : s'.taskOf? id = some (s.service.runJob id)
  job : ∃ job, s'.world.jobs.find? id = some job ∧ job.sourcePath = sourcePath ∧
    job.outputDir = dir

theorem id_eq_of_startedAnswer {job job' : Job}
    (h : Service.startedAnswer job = Service.startedAnswer job') : job.id = job'.id := by
  rw [Service.startedAnswer, Service.startedAnswer, Service.success, Service.success,
    Json.obj.injEq] at h
  simp only [List.cons.injEq, Prod.mk.injEq, Json.str.injEq] at h
  exact h.2.1.2

theorem startedAnswer_ne_refusal (job : Job) (reason : String) :
    Service.startedAnswer job ≠ Service.refusal reason :=
  Service.success_ne_refusal _ reason

theorem complaint_of_start {sourcePath : String} {runName : Option String} {job : Job}
    (h : (s.start sourcePath runName).1 = .ok (Service.startedAnswer job)) :
    Service.complaint s.world.files sourcePath = .ok none := by
  unfold start at h
  cases hcomplaint : Service.complaint s.world.files sourcePath with
  | error f =>
      rw [hcomplaint] at h
      cases h
  | ok answer =>
      rw [hcomplaint] at h
      cases answer with
      | some reason => exact absurd (Except.ok.inj h).symm (startedAnswer_ne_refusal job reason)
      | none => rfl

theorem starts_of_start {sourcePath : String} {runName : Option String} {job : Job}
    (h : s.start sourcePath runName = (.ok (Service.startedAnswer job), s')) :
    Starts s sourcePath (s.service.jobDirectory sourcePath runName s.takeId.1).toText job.id
      s' := by
  obtain ⟨found, ids, jobs, hstart, hfind, hsource, hdir⟩ :=
    start_eq runName (complaint_of_start (congrArg Prod.fst h))
  rw [h] at hstart
  obtain ⟨hanswer, rfl⟩ := Prod.mk.inj hstart
  have hid := id_eq_of_startedAnswer (Except.ok.inj hanswer)
  rw [hid]
  refine ⟨rfl, rfl, ?_, found, hfind, hsource, hdir⟩
  rw [taskOf?, List.find?_cons, BEq.rfl]
  rfl

theorem not_isStem_of_mem {stem : String} {c : Char} (h : c ∈ stem.toList)
    (hc : Partition.isStemChar c = false) : ¬ Partition.IsStem stem := by
  intro hstem
  have htrue := hstem c h
  rw [hc] at htrue
  cases htrue

theorem plain_fileStem (name : String) :
    Partition.fileStem name ≠ "." ∧ Partition.fileStem name ≠ ".." := by
  have hstem := Partition.isStem_fileStem name
  constructor
  all_goals
    intro heq
    rw [heq] at hstem
    exact not_isStem_of_mem (c := '.') (by decide) (by decide) hstem

theorem isName_fileStem (name : String) : Path.IsName (Partition.fileStem name) where
  nonempty := (Partition.isNormalStem_fileStem name).nonempty
  notDot := (plain_fileStem name).1
  plain hslash := not_isStem_of_mem hslash (by decide) (Partition.isStem_fileStem name)

theorem isRunDirectory_runDirectory (t : Service) (sourcePath : String)
    (runName : Option String) :
    IsRunDirectory t (Service.runDirectory t.outputRoot sourcePath runName) :=
  ⟨_, rfl⟩

theorem IsRunDirectory.ofText_toText {t : Service} (hroot : t.outputRoot.IsWritten) {dir : Path}
    (h : IsRunDirectory t dir) : Path.ofText dir.toText = dir := by
  obtain ⟨name, rfl⟩ := h
  refine Path.ofText_toText (hroot.join ?_)
  intro stem hstem
  obtain rfl := List.mem_singleton.mp hstem
  exact isName_fileStem name

theorem toOption_eq_some_iff {ε α : Type} {e : Except ε α} {a : α} :
    e.toOption = some a ↔ e = .ok a := by
  cases e <;> simp [Except.toOption]

theorem partition?_eq_some_iff {sourcePath : String} {partition : Partition} :
    s.partition? sourcePath = some partition ↔
      ∃ content, s.world.files.read (.ofText sourcePath) = .ok content ∧
        Partition.split s.service.runner.parse s.service.runner.strict content
          (Path.ofText sourcePath).name = .ok partition := by
  rw [partition?]
  simp only [Option.bind_eq_bind, Option.bind_eq_some_iff, toOption_eq_some_iff]

theorem fills_of_dissect {sourcePath : String} {runName : Option String}
    {fields : List (String × Json)}
    (h : s.dissect sourcePath runName = (.ended (.ok (Service.success fields)), s')) :
    s'.service = s.service ∧ ∃ partition artifacts, s.partition? sourcePath = some partition ∧
      Runner.Fills s.service.runner
        ⟨Service.runDirectory s.service.outputRoot sourcePath runName, s.service.runner.stubs⟩
        partition partition.sourceFile s.world.files s'.world.files artifacts := by
  obtain ⟨t, w, hruns, halong, rfl⟩ := exists_runs_of_foreground h
  obtain ⟨u, hrun, rfl⟩ := Plan.exists_of_runs_lift hruns
  have hfiles := FileTree.Undergoes.along FileTree.Undergoes.of_run
    (Surroundings.files_of_along halong)
  obtain ⟨content, partition, artifacts, hread, hsplit, hfills⟩ :=
    Service.fills_of_runs_dissect hrun hfiles
  rw [← (Partition.entries_of_split hsplit).2] at hfills
  exact ⟨rfl, partition, artifacts, partition?_eq_some_iff.mpr ⟨content, hread, hsplit⟩, hfills⟩

theorem fills_of_start_await {sourcePath : String} {runName : Option String} {job : Job}
    {fields : List (String × Json)} {s₁ : Session σ}
    (hroot : s.service.outputRoot.IsWritten)
    (hstarted : s.start sourcePath runName = (.ok (Service.startedAnswer job), s₁))
    (hended : s₁.await job.id = (.ended (.ok (Service.success fields)), s')) :
    s'.service = s.service ∧
      (∃ job', s'.world.jobs.find? job.id = some job' ∧
        Path.ofText job'.outputDir = s.service.jobDirectory sourcePath runName s.takeId.1) ∧
      ∃ partition artifacts, s.partition? sourcePath = some partition ∧
        Runner.Fills s.service.runner
          ⟨s.service.jobDirectory sourcePath runName s.takeId.1, s.service.runner.stubs⟩
          partition partition.sourceFile s.world.files s'.world.files artifacts := by
  have hstarts := starts_of_start hstarted
  obtain ⟨found, hfound, hsource, hdir⟩ := hstarts.job
  obtain ⟨t, p, hruns, halong, rfl⟩ := exists_runs_of_await hended hstarts.task
  have hpath : Path.ofText found.outputDir
      = s.service.jobDirectory sourcePath runName s.takeId.1 := by
    rw [hdir]
    exact (isRunDirectory_runDirectory s.service sourcePath _).ofText_toText hroot
  obtain ⟨content, partition, artifacts, hread, hsplit, hfills⟩ :=
    Service.fills_of_runs_runJob hruns halong hfound
  rw [hsource, hstarts.files] at hread
  rw [hsource] at hsplit
  rw [hsource, ← (Partition.entries_of_split hsplit).2, hpath, hstarts.files,
    ← files_keepTask s₁ job.id] at hfills
  refine ⟨?_, ?_, partition, artifacts, ?_, hfills⟩
  · rw [service_keepTask, hstarts.service]
  · have hkept := (outputDir_keepTask s₁ job.id p job.id).trans
      (Surroundings.outputDir_of_along halong job.id)
    rw [hfound, Option.map_some] at hkept
    obtain ⟨job', hjob', hsame⟩ := Option.map_eq_some_iff.mp hkept
    refine ⟨job', hjob', ?_⟩
    rw [hsame, hpath]
  · exact partition?_eq_some_iff.mpr ⟨content, hread, hsplit⟩

theorem Finishes.filled {r : Finished} (hroot : s.service.outputRoot.IsWritten)
    (h : Finishes s r s') : Filled s r s' := by
  cases h with
  | foreground hpartition hended =>
      obtain ⟨hservice, partition, artifacts, hsome, hfills⟩ := fills_of_dissect hended
      obtain rfl := Option.some.inj (hpartition.symm.trans hsome)
      exact ⟨hservice, isRunDirectory_runDirectory s.service _ _, ⟨artifacts, hfills⟩, nofun⟩
  | @background sourcePath runName _ job fields s₁ _ hpartition hstarted hended =>
      obtain ⟨hservice, hjob, partition, artifacts, hsome, hfills⟩ :=
        fills_of_start_await hroot hstarted hended
      obtain rfl := Option.some.inj (hpartition.symm.trans hsome)
      refine ⟨hservice, isRunDirectory_runDirectory s.service _ _, ⟨artifacts, hfills⟩, ?_⟩
      intro id hid
      cases hid
      exact hjob

theorem exists_finishes_of_dissect {sourcePath : String} {runName : Option String}
    {fields : List (String × Json)}
    (h : s.dissect sourcePath runName = (.ended (.ok (Service.success fields)), s')) :
    ∃ partition, Finishes s
      ⟨Service.runDirectory s.service.outputRoot sourcePath runName, partition, none⟩ s' := by
  obtain ⟨-, partition, -, hpartition, -⟩ := fills_of_dissect h
  exact ⟨partition, .foreground hpartition h⟩

theorem exists_finishes_of_start_await {sourcePath : String} {runName : Option String} {job : Job}
    {fields : List (String × Json)} {s₁ : Session σ}
    (hroot : s.service.outputRoot.IsWritten)
    (hstarted : s.start sourcePath runName = (.ok (Service.startedAnswer job), s₁))
    (hended : s₁.await job.id = (.ended (.ok (Service.success fields)), s')) :
    ∃ partition, Finishes s
      ⟨s.service.jobDirectory sourcePath runName s.takeId.1, partition, some job.id⟩ s' := by
  obtain ⟨-, -, partition, -, hpartition, -⟩ := fills_of_start_await hroot hstarted hended
  exact ⟨partition, .background hpartition hstarted hended⟩

end Dissect.Session
