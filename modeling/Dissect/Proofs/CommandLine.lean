import Dissect.CommandLine
import Dissect.Proofs.Outcome
import Dissect.Proofs.Plan.Alike
import Dissect.Server

/-!
The program beside the service. Each has its own checks of a source and its own name for the
directory of a run; they take on the same sources, refuse the others for the same reasons, and what
they take on they run alike.
-/

namespace Dissect.CommandLine

open Plan (carryOut)

variable {σ : Type} {parse : Syntax.Parser} {env : Environment} {arguments : List String}
  {files : FileTree} {s : Settings} {sourcePath : String}

/-- Why a source is refused: for its type, or else because there is no such file. -/
inductive Refuses (files : FileTree) (sourcePath : String) : String → Prop
  | type (htype : Text.lower (Path.ofText sourcePath).suffix ∉ Syntax.extensions) :
      Refuses files sourcePath ("Unsupported file type: " ++ sourcePath ++ " (expected one of "
        ++ ", ".intercalate Syntax.extensions ++ ")")
  | missing (htype : Text.lower (Path.ofText sourcePath).suffix ∈ Syntax.extensions)
      (hfile : files.isFile (.ofText sourcePath) = .ok false) :
      Refuses files sourcePath ("Source file does not exist: " ++ sourcePath)

/-- A session with the service that settings stand for, where no server can be reached. -/
structure Serves (s : Settings) (parse : Syntax.Parser) (files : FileTree) (p : Backend)
    (x : Session σ) : Prop where
  backend : s.backend = .ok p
  service : s.service parse p = .ok x.service
  calls : x.calls = p.alone
  files : x.world.files = files

/-- What the program tells of the end of a run, and the service. -/
inductive EndsAlike (log : List Entry) (files : FileTree) :
    Option (Except RunError RunResult) → Outcome → Awaited → Prop
  | finished (r : RunResult) :
      EndsAlike log files (some (.ok r)) ⟨log ++ summaryLog r, files, .code 0⟩
        (.ended (.ok (Service.success r.fields)))
  | failed {e : RunError} (h : e.isExpected = true) :
      EndsAlike log files (some (.error e))
        ⟨log ++ [⟨.error, "Deconstruction failed: " ++ e.message⟩], files, .code 1⟩
        (.ended (.ok (Service.refusal e.message)))
  | broken {e : RunError} (h : e.isExpected = false) :
      EndsAlike log files (some (.error e)) ⟨log, files, .failure (.run e)⟩
        (.ended (.error (.run e)))
  | waiting : EndsAlike log files none ⟨log, files, .code 1⟩ .waiting

def runDirectory (s : Settings) (env : Environment) (sourcePath : String) : Path :=
  Service.runDirectory s.outputDir sourcePath (env.lookup "RUN_NAME")

def runAlone (p : Backend) (runner : Runner) (source dir : Path) (files : FileTree) :
    Plan.Progress Effect (Surroundings Unit) (Except RunError RunResult) :=
  carryOut (Surroundings.effects p.alone) (runner.run source dir) ⟨files, 0.0, [], [], ()⟩

/-- The program, whose outcome is `o`, and the service agree about a source: whether to take it on,
and what they do with it. -/
structure Agrees (parse : Syntax.Parser) (env : Environment) (files : FileTree) (s : Settings)
    (sourcePath : String) (o : Outcome) : Prop where
  accepts_iff : openingLog s (.ofText sourcePath) (runDirectory s env sourcePath) <+: o.log
    ↔ Service.complaint files sourcePath = .ok none
  refuses_iff : ∀ reason, o = refused files reason
    ↔ Service.complaint files sourcePath = .ok (some reason)
  reason_iff : ∀ reason, Service.complaint files sourcePath = .ok (some reason)
    ↔ Refuses files sourcePath reason
  fault_iff : ∀ f, o = ⟨[], files, .failure (.file f)⟩
    ↔ Service.complaint files sourcePath = .error f
  refusal : ∀ {σ : Type} {x : Session σ} {reason : String}, x.world.files = files →
    Refuses files sourcePath reason →
    x.dissect sourcePath (env.lookup "RUN_NAME") = (.ended (.ok (Service.refusal reason)), x)
  run : ∀ {σ : Type} {x : Session σ} {p : Backend}, Serves s parse files p x →
    Service.complaint files sourcePath = .ok none →
    let run := runAlone p x.service.runner (.ofText sourcePath) (runDirectory s env sourcePath)
      files
    let answer := x.dissect sourcePath (env.lookup "RUN_NAME")
    EndsAlike (openingLog s (.ofText sourcePath) (runDirectory s env sourcePath) ++ healthLog p)
        run.state.files run.plan.result? o answer.1 ∧
      answer.2.world.files = run.state.files

theorem runChecked_eq (parse : Syntax.Parser) (s : Settings) (env : Environment)
    (sourcePath : String) (files : FileTree) :
    runChecked parse s env sourcePath files =
      match Service.complaint files sourcePath with
      | .error f => ⟨[], files, .failure (.file f)⟩
      | .ok (some reason) => refused files reason
      | .ok none => runExisting parse s env (.ofText sourcePath) files := by
  rw [runChecked, Service.complaint]
  split
  · rfl
  · cases files.isFile (.ofText sourcePath) with
    | error f => rfl
    | ok found => cases found <;> rfl

theorem complaint_eq_some_iff {reason : String} :
    Service.complaint files sourcePath = .ok (some reason) ↔ Refuses files sourcePath reason := by
  have htype : (!Syntax.isSourcePath (Path.ofText sourcePath)) = true
      ↔ Text.lower (Path.ofText sourcePath).suffix ∉ Syntax.extensions := by
    rw [Syntax.isSourcePath, Bool.not_eq_true', ← Bool.not_eq_true, List.contains_iff_mem]
  rw [Service.complaint]
  constructor
  · intro h
    split at h
    · rename_i hunsupported
      obtain rfl := Option.some.inj (Except.ok.inj h)
      exact .type (htype.mp hunsupported)
    · rename_i hsupported
      rw [htype, not_not] at hsupported
      cases hfile : files.isFile (.ofText sourcePath) with
      | error f =>
          rw [hfile] at h
          cases h
      | ok found =>
          rw [hfile] at h
          cases found with
          | true => cases h
          | false =>
              obtain rfl := Option.some.inj (Except.ok.inj h)
              exact .missing hsupported hfile
  · rintro (hunsupported | ⟨hsupported, hfile⟩)
    · rw [if_pos (htype.mpr hunsupported)]
    · rw [if_neg (htype.not.mpr (not_not.mpr hsupported)), hfile]
      rfl

theorem outputDir_eq (s : Settings) (env : Environment) (sourcePath : String) :
    outputDir s env (.ofText sourcePath) = runDirectory s env sourcePath := rfl

theorem runWith_eq (p : Backend) (runner : Runner) (source dir : Path) (log : List Entry)
    (files : FileTree) :
    runWith p runner source dir log files
      = outcomeOf log (runAlone p runner source dir files).state.files
          (runAlone p runner source dir files).plan.result? := by
  rfl

theorem log_outcomeOf (log : List Entry) (files : FileTree)
    (result : Option (Except RunError RunResult)) : log <+: (outcomeOf log files result).log := by
  rw [outcomeOf.eq_def]
  split
  · exact List.prefix_append _ _
  · split
    · exact List.prefix_append _ _
    · exact List.prefix_rfl
  · exact List.prefix_rfl

theorem log_runExisting (parse : Syntax.Parser) (s : Settings) (env : Environment) (source : Path)
    (files : FileTree) :
    openingLog s source (outputDir s env source)
      <+: (runExisting parse s env source files).log := by
  rw [runExisting]
  split
  · exact List.prefix_rfl
  · split
    · exact List.prefix_append _ _
    · exact (List.prefix_append _ _).trans (log_outcomeOf _ _ _)

theorem not_prefix_refused (s : Settings) (source dir : Path) (files : FileTree) (reason : String) :
    ¬ openingLog s source dir <+: (refused files reason).log := by
  intro h
  exact absurd (List.cons_prefix_cons.mp h).1 (by simp)

theorem accepts_iff : openingLog s (.ofText sourcePath) (runDirectory s env sourcePath)
      <+: (runChecked parse s env sourcePath files).log
    ↔ Service.complaint files sourcePath = .ok none := by
  rw [runChecked_eq]
  match Service.complaint files sourcePath with
  | .error f => exact iff_of_false (fun h => nomatch List.prefix_nil.mp h) nofun
  | .ok (some reason) => exact iff_of_false (not_prefix_refused _ _ _ _ _) nofun
  | .ok none => exact iff_of_true (log_runExisting _ _ _ _ _) rfl

theorem refuses_iff {reason : String} :
    runChecked parse s env sourcePath files = refused files reason
      ↔ Service.complaint files sourcePath = .ok (some reason) := by
  have hlog := log_runExisting parse s env (.ofText sourcePath) files
  rw [runChecked_eq]
  match Service.complaint files sourcePath with
  | .error f => exact iff_of_false nofun nofun
  | .ok (some reason') => simp [refused]
  | .ok none =>
      refine iff_of_false (fun h => ?_) nofun
      dsimp only at h
      rw [h] at hlog
      exact not_prefix_refused _ _ _ _ _ hlog

theorem fault_iff {f : FileFault} :
    runChecked parse s env sourcePath files = ⟨[], files, .failure (.file f)⟩
      ↔ Service.complaint files sourcePath = .error f := by
  have hlog := log_runExisting parse s env (.ofText sourcePath) files
  rw [runChecked_eq]
  match Service.complaint files sourcePath with
  | .error f' => simp
  | .ok (some reason) => exact iff_of_false nofun nofun
  | .ok none =>
      refine iff_of_false (fun h => ?_) nofun
      dsimp only at h
      rw [h] at hlog
      exact nomatch List.prefix_nil.mp hlog

/-- What the service answers to the end of a run. -/
def answerOf : Except RunError RunResult → Except ServiceError Json
  | .ok r => .ok (Service.success r.fields)
  | .error e => if e.isExpected then .ok (Service.refusal e.message) else .error (.run e)

theorem dissect_eq (t : Service) (sourcePath : String) (runName : Option String) :
    t.dissect sourcePath runName = Plan.act Effect.look fun files =>
      match Service.complaint files sourcePath with
      | .error f => .done (.error (.file f))
      | .ok (some reason) => .done (.ok (Service.refusal reason))
      | .ok none =>
          let plan : Plan Effect (Except RunError RunResult) := t.runner.run (.ofText sourcePath)
            (Service.runDirectory t.outputRoot sourcePath runName)
          plan >>= fun r => .done (answerOf r) := by
  rw [Service.dissect]
  -- not by a rewrite, which would try the bind behind the run as well and unfold the run
  refine (Plan.perform_bind Effect.look _).trans ?_
  refine congrArg (Plan.act Effect.look) (funext fun files => ?_)
  generalize Service.complaint files sourcePath = complaint
  match complaint with
  | .error f => rfl
  | .ok (some reason) => rfl
  | .ok none =>
      refine congrArg (Plan.bind _) (funext fun r => ?_)
      match r with
      | .ok r => rfl
      | .error e =>
          rw [answerOf]
          dsimp only
          split <;> rfl

theorem effects_alike {σ' : Type} (p : Backend) :
    (Surroundings.effects (σ := σ) p.alone).Alike TaskEffect.run
      (fun w (w' : Surroundings σ') => w'.files = w.files) (Surroundings.tasks p.alone) where
  answer x w w' hw := by
    cases x with
    | call c => cases c <;> rfl
    | look => exact congrArg some hw
    | write path content =>
        simp only [Surroundings.effects, Surroundings.tasks, Surroundings.answerTask,
          Surroundings.answerEffect, hw]
    | report r => rfl
  state x w w' hw := by
    cases x with
    | call c => cases c <;> exact hw
    | look => exact hw
    | write path content =>
        simp only [Surroundings.effects, Surroundings.tasks, Surroundings.answerTask,
          Surroundings.answerEffect, hw]
    | report r => exact hw
  seconds x := by rfl

theorem carryOut_dissect (p : Backend) (t : Service) {sourcePath : String}
    (h : Service.complaint files sourcePath = .ok none) (runName : Option String) :
    let run := runAlone p t.runner (.ofText sourcePath)
      (Service.runDirectory t.outputRoot sourcePath runName) files
    let answered := carryOut (Surroundings.effects p.alone) (t.dissect sourcePath runName)
      ⟨files, 0.0, [], [], ()⟩
    answered.plan.result? = run.plan.result?.map answerOf ∧ answered.state = run.state := by
  intro run answered
  have hanswered : answered = carryOut (Surroundings.effects p.alone) _ ⟨files, 0.0, [], [], ()⟩ :=
    (congrArg (carryOut _ · _) (dissect_eq t sourcePath runName)).trans
      (Plan.carryOut_act rfl rfl _)
  rw [hanswered, h]
  exact Plan.carryOut_bind_done _ _ answerOf _

theorem runExisting_eq {p : Backend} {t : Service} (hbackend : s.backend = .ok p)
    (hservice : s.service parse p = .ok t) (source : Path) :
    runExisting parse s env source files =
      runWith p t.runner source (outputDir s env source)
        (openingLog s source (outputDir s env source) ++ healthLog p) files := by
  rw [Settings.service, map_eq_ok_iff] at hservice
  obtain ⟨runner, hrunner, rfl⟩ := hservice
  rw [runExisting, hbackend]
  dsimp only
  rw [hrunner]

theorem runDirectory_of_service {p : Backend} {t : Service} (hservice : s.service parse p = .ok t)
    (env : Environment) (sourcePath : String) :
    Service.runDirectory t.outputRoot sourcePath (env.lookup "RUN_NAME")
      = runDirectory s env sourcePath := by
  rw [Settings.service, map_eq_ok_iff] at hservice
  obtain ⟨runner, -, rfl⟩ := hservice
  rfl

def awaitedOf : Option (Except ServiceError Json) → Awaited
  | some outcome => .ended outcome
  | none => .waiting

theorem endsAlike (log : List Entry) (files : FileTree)
    (result : Option (Except RunError RunResult)) :
    EndsAlike log files result (outcomeOf log files result) (awaitedOf (result.map answerOf)) := by
  match result with
  | none => exact .waiting
  | some (.ok r) => exact .finished r
  | some (.error e) =>
      cases hexpected : e.isExpected with
      | true => simpa [outcomeOf, awaitedOf, answerOf, hexpected] using EndsAlike.failed hexpected
      | false => simpa [outcomeOf, awaitedOf, answerOf, hexpected] using EndsAlike.broken hexpected

theorem EndsAlike.files_eq {log : List Entry} {result : Option (Except RunError RunResult)}
    {o : Outcome} {a : Awaited} (h : EndsAlike log files result o a) : o.files = files := by
  cases h <;> rfl

theorem dissect_of_complaint {x : Session σ} {reason : String}
    (h : Service.complaint x.world.files sourcePath = .ok (some reason))
    (runName : Option String) :
    x.dissect sourcePath runName = (.ended (.ok (Service.refusal reason)), x) := by
  rw [Session.dissect, dissect_eq, Plan.lift, Session.foreground]
  dsimp only
  rw [Plan.carryOut_act (b := x.world.files) rfl rfl, h]
  rfl

theorem dissect_of_serves {x : Session σ} {p : Backend} (hserves : Serves s parse files p x)
    (h : Service.complaint files sourcePath = .ok none) (env : Environment) :
    let run := runAlone p x.service.runner (.ofText sourcePath) (runDirectory s env sourcePath)
      files
    let answer := x.dissect sourcePath (env.lookup "RUN_NAME")
    answer.1 = awaitedOf (run.plan.result?.map answerOf) ∧
      answer.2.world.files = run.state.files := by
  intro run answer
  obtain ⟨hresult, hstate⟩ := carryOut_dissect p x.service h (env.lookup "RUN_NAME")
  rw [runDirectory_of_service hserves.service] at hresult hstate
  have hfiles : x.world.files = (⟨files, 0.0, [], [], ()⟩ : Surroundings Unit).files :=
    hserves.files
  -- the session may have jobs and another clock: only its files are those of the program
  have halike := Plan.carryOut_alike (effects_alike p)
    (x.service.dissect sourcePath (env.lookup "RUN_NAME")) hfiles
  have hanswer : answer = x.foreground _ := rfl
  rw [hanswer, Session.foreground, hserves.calls]
  dsimp only
  constructor
  · rw [halike.plan, Plan.result?_lift, hresult]
    cases run.plan.result?.map answerOf <;> rfl
  · rw [halike.state, hstate]

theorem run_eq_runChecked (parse : Syntax.Parser) (files : FileTree)
    (hsettings : Settings.ofEnvironment env = .ok s)
    (hsource : sourceOf env arguments = some sourcePath) :
    run parse env arguments files = runChecked parse s env sourcePath files := by
  rw [run, hsettings, hsource]

/-- The program and the service take on the same sources and refuse the others for the same
reasons, and they run what they take on alike. -/
theorem agrees_of_run (parse : Syntax.Parser) (files : FileTree)
    (hsettings : Settings.ofEnvironment env = .ok s)
    (hsource : sourceOf env arguments = some sourcePath) :
    Agrees parse env files s sourcePath (run parse env arguments files) := by
  rw [run_eq_runChecked parse files hsettings hsource]
  refine ⟨accepts_iff, fun _ => refuses_iff, fun _ => complaint_eq_some_iff, fun _ => fault_iff,
    ?_, ?_⟩
  · intro σ x reason hfiles hrefuses
    rw [← complaint_eq_some_iff, ← hfiles] at hrefuses
    exact dissect_of_complaint hrefuses _
  · intro σ x p hserves hcomplaint
    have hdissect := dissect_of_serves hserves hcomplaint env
    dsimp only at hdissect ⊢
    rw [runChecked_eq, hcomplaint]
    dsimp only
    rw [runExisting_eq hserves.backend hserves.service, outputDir_eq, runWith_eq, hdissect.1]
    exact ⟨endsAlike _ _ _, hdissect.2⟩

theorem serves_of_assemble {x y : Session σ}
    (h : (Server.assemble s parse x).2.session = some y) :
    ∃ p, Serves s parse x.world.files p y := by
  rw [Server.assemble] at h
  split at h
  · cases h
  · rename_i p hbackend
    split at h
    · cases h
    · rename_i t hservice
      obtain rfl := Option.some.inj h
      exact ⟨p, hbackend, hservice, rfl, rfl⟩

def namedRun : Environment := [("LLM_PROVIDER", "offline"), ("RUN_NAME", "First run")]

def oneSource : FileTree := (FileTree.empty.write ⟨"", ["lib", "App.JS"]⟩ []).1

def namedSettings : Settings :=
  { Settings.standard with provider := "offline", requestTimeout := some 600.0 }

def namedService : Service :=
  ⟨⟨fun _ => none, true, "Offline", true, .standard, 3, 1.0, none, true⟩, ⟨"", ["output"]⟩⟩

def namedSession : Session Unit where
  service := namedService
  calls := (⟨.offline, 0.1, none⟩ : Backend).alone
  world := ⟨oneSource, 5.0, [], [], ()⟩
  ids := []
  tasks := []

theorem agrees_of_run_named :
    Settings.ofEnvironment namedRun = .ok namedSettings ∧
      sourceOf namedRun ["./lib//App.JS/"] = some "./lib//App.JS/" ∧
      let program := run (fun _ => none) namedRun ["./lib//App.JS/"] oneSource
      let session := namedSession.dissect "./lib//App.JS/" (some "First run")
      [⟨.info, "Deconstructing: lib/App.JS"⟩, ⟨.info, "Output directory: output/First_run"⟩]
        <+: program.log ∧
      program.files = session.2.world.files := by
  have hsettings : Settings.ofEnvironment namedRun = .ok namedSettings := by rfl
  have hsource : sourceOf namedRun ["./lib//App.JS/"] = some "./lib//App.JS/" := by decide
  have hagrees := agrees_of_run (fun _ => none) oneSource hsettings hsource
  have hcomplaint : Service.complaint oneSource "./lib//App.JS/" = .ok none := by decide +kernel
  have hserves : Serves namedSettings (fun _ => none) oneSource ⟨.offline, 0.1, none⟩
      namedSession :=
    ⟨by rfl, by rfl, rfl, rfl⟩
  have hopening : [⟨.info, "Deconstructing: lib/App.JS"⟩,
      ⟨.info, "Output directory: output/First_run"⟩]
      <+: openingLog namedSettings (.ofText "./lib//App.JS/")
        (runDirectory namedSettings namedRun "./lib//App.JS/") := by
    decide +kernel
  refine ⟨hsettings, hsource, hopening.trans (hagrees.accepts_iff.mpr hcomplaint), ?_⟩
  obtain ⟨hends, hfiles⟩ := hagrees.run hserves hcomplaint
  exact hends.files_eq.trans hfiles.symm

end Dissect.CommandLine
