import Dissect.Session
import Dissect.Settings.Assembly

namespace Dissect

structure ServedBackend where
  name : String
  healthy : Bool
deriving DecidableEq, Repr

structure Server (σ : Type) where
  backend : Option ServedBackend
  session : Option (Session σ)

namespace Server

variable {σ : Type}

/-- A server made from settings, in the surroundings of a session but without its jobs. Settings can
give a backend and yet no service; the server then has the backend alone. -/
def assemble (settings : Settings) (parse : Syntax.Parser) (s : Session σ) :
    Except AssemblyError (Backend × Service) × Server σ :=
  match settings.backend with
  | .error e => (.error e, ⟨none, none⟩)
  | .ok p =>
      let backend := some ⟨p.name, p.isHealthyAlone⟩
      match settings.service parse p with
      | .error e => (.error e, ⟨backend, none⟩)
      | .ok service =>
          let world := { s.world with jobs := [], reports := [] }
          let session := { s with service, calls := p.alone, world, tasks := [] }
          (.ok (p, service), ⟨backend, some session⟩)

inductive Request
  | health
  | dissect (sourcePath : String) (runName : Option String) (wait : Bool)
  | status (id : String)
  | jobs
  | cancel (id : String)
  | units (id : String) (kind : Option String)
  | summary (id kind : String)

def notInitialized : Json := Service.refusal "Server not initialized"

def healthAnswer (b : ServedBackend) : Json :=
  Service.success [("provider", .str b.name),
    ("components", .obj [("server", .bool true), ("llm", .bool b.healthy)])]

def statusAnswer (s : Session σ) (id : String) : Json :=
  match s.status? id with
  | none => Service.noJob id
  | some fields => Service.success fields

def jobsAnswer (s : Session σ) : Json :=
  let jobs := s.world.jobs.jobs
  Service.success [("total_jobs", .nat jobs.length),
    ("jobs", .arr (jobs.map fun job => .obj (job.fields s.world.clock)))]

def cancelAnswer (id : String) (done : Bool) : Json :=
  if done then Service.success [("message", .str ("Job " ++ id ++ " cancelled successfully"))]
  else Service.refusal ("Job " ++ id ++ " not found or already completed")

def answerWith (s : Session σ) : Request → Awaited × Session σ
  | .health => (.ended (.ok notInitialized), s)
  | .dissect sourcePath runName true => s.dissect sourcePath runName
  | .dissect sourcePath runName false =>
      let (answer, s) := s.start sourcePath runName
      (.ended answer, s)
  | .status id => (.ended (.ok (statusAnswer s id)), s)
  | .jobs => (.ended (.ok (jobsAnswer s)), s)
  | .cancel id =>
      let (done, s) := s.cancel id
      (.ended (.ok (cancelAnswer id done)), s)
  | .units id kind => (.ended (s.listUnits id kind), s)
  | .summary id kind => s.summaryOfUnits id kind

/-- Answer a request; the server as it is then. -/
def answer (server : Server σ) (r : Request) : Awaited × Server σ :=
  match r, server.backend, server.session with
  | .health, some b, _ => (.ended (.ok (healthAnswer b)), server)
  | .health, none, _ => (.ended (.ok notInitialized), server)
  | _, _, none => (.ended (.ok notInitialized), server)
  | r, _, some s =>
      let (answer, s) := answerWith s r
      (answer, { server with session := some s })

end Server

end Dissect
