import Dissect.Service

/-!
A service at work: its files, its clock, its jobs with their tasks, and the model it talks to. Each
request gives an answer and the service after it.
-/

namespace Dissect

/-- What tasks act on; `σ` is the state of the model. -/
structure Surroundings (σ : Type) where
  files : FileTree
  clock : Float
  jobs : Job.Registry
  reports : List StageReport
  model : σ

namespace Surroundings

def answerEffect {σ : Type} (calls : Plan.Handler Call σ) {α : Type} :
    Effect α → Surroundings σ → Option α × Surroundings σ
  | .call c, w =>
      let (answer, model) := calls.answer c w.model
      (answer, { w with model })
  | .look, w => (some w.files, w)
  | .write path content, w =>
      let (files, outcome) := w.files.write path content
      (some outcome, { w with files })
  | .report r, w => (some (), { w with reports := w.reports ++ [r] })

def answerTask {σ : Type} (calls : Plan.Handler Call σ) {α : Type} :
    TaskEffect α → Surroundings σ → Option α × Surroundings σ
  | .run e, w => answerEffect calls e w
  | .findJob id, w => (some (w.jobs.find? id), w)
  | .track id e, w => (some (), { w with jobs := w.jobs.apply id w.clock e })

def effectSeconds {σ : Type} (calls : Plan.Handler Call σ) {α : Type} : Effect α → Float
  | .call c => calls.seconds c
  | _ => 0.0

def effects {σ : Type} (calls : Plan.Handler Call σ) : Plan.Handler Effect (Surroundings σ) where
  answer := answerEffect calls
  seconds := effectSeconds calls

def tasks {σ : Type} (calls : Plan.Handler Call σ) :
    Plan.Handler TaskEffect (Surroundings σ) where
  answer := answerTask calls
  seconds
    | .run e => effectSeconds calls e
    | _ => 0.0

end Surroundings

namespace Plan

/-- Carry out a plan; where it waits for an answer that does not come, its time limits pass once. -/
def carryOut {Act : Type → Type 1} {σ : Type} (h : Handler Act σ) {α : Type} (p : Plan Act α)
    (s : σ) : Progress Act σ α :=
  let first := advance h p 0.0 s
  match first.plan.result? with
  | some _ => first
  | none => advance h first.plan.expire first.time first.state

end Plan

abbrev Task := Plan TaskEffect (Except ServiceError Json)

/-- How the wait for a task ends. -/
inductive Awaited
  | cancelled
  | ended (outcome : Except ServiceError Json)
  | waiting

structure Session (σ : Type) where
  service : Service
  calls : Plan.Handler Call σ
  world : Surroundings σ
  ids : List String
  tasks : List (String × Task)

namespace Session

variable {σ : Type}

def follow (s earlier : Session σ) : Session σ :=
  let world := { s.world with files := earlier.world.files, clock := earlier.world.clock }
  { s with ids := earlier.ids, world }

def takeId (s : Session σ) : String × Session σ := (s.ids.headD "", { s with ids := s.ids.tail })

/-- Make a job, with an identifier of its own where none is given. -/
def addJob (s : Session σ) (sourcePath outputDir : String) (id : Option String) :
    String × Session σ :=
  let (id, s) := match id.filter (!·.isEmpty) with
    | some id => (id, s)
    | none => s.takeId
  let job := Job.queued id sourcePath outputDir s.world.clock
  (id, { s with world := { s.world with jobs := s.world.jobs.put job } })

def modifyJob (s : Session σ) (id : String) (f : Job → Job) : Session σ :=
  { s with world := { s.world with jobs := s.world.jobs.modify id f } }

/-- Start a job; its task waits to be carried out. -/
def start (s : Session σ) (sourcePath : String) (runName : Option String) :
    Except ServiceError Json × Session σ :=
  match Service.complaint s.world.files sourcePath with
  | .error f => (.error (.file f), s)
  | .ok (some reason) => (.ok (Service.refusal reason), s)
  | .ok none =>
      let (id, s) := s.takeId
      let dir := (s.service.jobDirectory sourcePath runName id).toText
      let (id, s) := s.addJob sourcePath dir (some id)
      let s := s.modifyJob id fun job => { job with task := some ⟨false, false⟩ }
      let s := { s with tasks := (id, s.service.runJob id) :: s.tasks }
      match s.world.jobs.find? id with
      | some job => (.ok (Service.startedAnswer job), s)
      | none => (.ok (Service.noJob id), s)

def isCancelled (s : Session σ) (id : String) : Bool :=
  ((s.world.jobs.find? id).bind (·.task)).any (·.cancelled)

/-- The session with the task of a job as far as it was carried out. -/
def keepTask (s : Session σ) (id : String)
    (p : Plan.Progress TaskEffect (Surroundings σ) (Except ServiceError Json)) : Session σ :=
  let s := { s with world := p.state, tasks := (id, p.plan) :: s.tasks.filter (·.1 != id) }
  if p.plan.result?.isSome then
    s.modifyJob id fun job => { job with task := job.task.map ({ · with ended := true }) }
  else s

def await (s : Session σ) (id : String) : Awaited × Session σ :=
  if s.isCancelled id then (.cancelled, s)
  else
    match s.tasks.find? (·.1 == id) with
    | none => (.waiting, s)
    | some (_, task) =>
        let p := Plan.carryOut (Surroundings.tasks s.calls) task s.world
        (match p.plan.result? with
          | some outcome => .ended outcome
          | none => .waiting, s.keepTask id p)

/-- Carry out the task of a job until it waits for answers, and tell for how many. -/
def awaitCalls (s : Session σ) (id : String) : Nat × Session σ :=
  match s.tasks.find? (·.1 == id) with
  | none => (0, s)
  | some (_, task) =>
      let p := Plan.advance (Surroundings.tasks s.calls) task 0.0 s.world
      (p.plan.waiting, s.keepTask id p)

def foreground (s : Session σ) (task : Task) : Awaited × Session σ :=
  let p := Plan.carryOut (Surroundings.tasks s.calls) task s.world
  (match p.plan.result? with
    | some outcome => .ended outcome
    | none => .waiting, { s with world := p.state })

def dissect (s : Session σ) (sourcePath : String) (runName : Option String) :
    Awaited × Session σ :=
  s.foreground ((s.service.dissect sourcePath runName).lift .run)

def runJob (s : Session σ) (id : String) : Awaited × Session σ := s.foreground (s.service.runJob id)

def listUnits (s : Session σ) (id : String) (kind : Option String) : Except ServiceError Json :=
  Service.listUnits s.world.jobs s.world.files id kind

def summaryOfUnits (s : Session σ) (id kind : String) : Awaited × Session σ :=
  let plan := s.service.summaryOfUnits s.world.jobs s.world.files id kind
  s.foreground (plan.lift fun c => .run (.call c))

def cancel (s : Session σ) (id : String) : Bool × Session σ :=
  let (jobs, done) := s.world.jobs.cancel id s.world.clock
  (done, { s with world := { s.world with jobs } })

def status? (s : Session σ) (id : String) : Option (List (String × Json)) :=
  (s.world.jobs.find? id).map (·.fields s.world.clock)

end Session

end Dissect
