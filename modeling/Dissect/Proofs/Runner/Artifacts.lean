import Dissect.Proofs.Output.UnitFiles
import Dissect.Proofs.Runner.Stages

namespace Dissect.Runner

open Plan Text

/-- What a run does that can be seen outside of it. -/
inductive Deed
  | wrote (path : Path) (content : Bytes)
  | refused (path : Path) (f : FileFault)
  | reported (r : StageReport)

def deedOf? : Event Effect → Option Deed
  | .answered (.write path content) (.ok _) => some (.wrote path content)
  | .answered (.write path _) (.error f) => some (.refused path f)
  | .answered (.report r) _ => some (.reported r)
  | _ => none

def deeds (t : List (Event Effect)) : List Deed := t.filterMap deedOf?

theorem deeds_append (t u : List (Event Effect)) : deeds (t ++ u) = deeds t ++ deeds u :=
  List.filterMap_append

/-- A file of a run, and what is reported once it is written. -/
structure Artifact where
  path : Path
  content : Bytes
  reports : List StageReport

def Artifact.deeds (a : Artifact) : List Deed := .wrote a.path a.content :: a.reports.map .reported

/-- A run is to write files at paths and comes to a result: it writes them in turn until it ends or
fails, of itself or because a file is refused. -/
inductive Course {α : Type} (isArtifact : Artifact → Prop) (isEnd : α → Prop)
    (result : Except RunError α) : List Path → List Deed → Prop
  | ends {a : α} (hresult : result = .ok a) (hend : isEnd a) : Course isArtifact isEnd result [] []
  | fails {e : RunError} {path : Path} {paths : List Path} (hresult : result = .error e) :
      Course isArtifact isEnd result (path :: paths) []
  | refused {path : Path} {paths : List Path} {f : FileFault}
      (hresult : result = .error (Runner.refused path f)) :
      Course isArtifact isEnd result (path :: paths) [.refused path f]
  | wrote {a : Artifact} {paths : List Path} {ds : List Deed} (hartifact : isArtifact a)
      (rest : Course isArtifact isEnd result paths ds) :
      Course isArtifact isEnd result (a.path :: paths) (a.deeds ++ ds)

inductive IsUnitFile (p : Runner) (s : Output.Store) (file : String)
    (units : List (SourceUnit × Placement)) : Artifact → Prop
  | intro {u : SourceUnit} {e : Placement} {text : String} (hunit : (u, e) ∈ units)
      (htext : s.unitContent p.parse file u = .ok text) :
      IsUnitFile p s file units ⟨s.pathFor e, Utf8.encode text, []⟩

/-- The files of a run of a partition, each with its content. -/
inductive IsArtifact (p : Runner) (s : Output.Store) (part : Partition) (file : String)
    (result : Except RunError RunResult) : Artifact → Prop
  | unit {a : Artifact} (ha : IsUnitFile p s file (part.units.zip part.entries) a) :
      IsArtifact p s part file result a
  | sourceMap : IsArtifact p s part file result
      ⟨s.sourceMapPath, Utf8.encode part.sourceMap.indented, [.files part.units.length]⟩
  | graph {g : ReferenceGraph} (hgraph : Reference.graphOf p.parse part.units none = .ok g) :
      IsArtifact p s part file result
        ⟨s.graphPath, Utf8.encode (g.toJson (Output.filesByName part.entries)).indented,
          [.references g.edges.length]⟩
  | analysis {r : RunResult} (hresult : result = .ok r) :
      IsArtifact p s part file result
        ⟨s.analysisPath, Utf8.encode (document r.report file),
          [.analysis r.report.results.length r.report.timedOut]⟩

def artifactPaths (s : Output.Store) (part : Partition) : List Path :=
  part.entries.map s.pathFor ++ [s.sourceMapPath, s.graphPath, s.analysisPath]

abbrev CourseOf (p : Runner) (s : Output.Store) (part : Partition) (file : String)
    (result : Except RunError RunResult) : List Path → List Deed → Prop :=
  Course (IsArtifact p s part file result) (fun r => r.partition = part ∧ r.store = s) result

section

variable {α β : Type} {isArtifact isArtifact' : Artifact → Prop} {isEnd : α → Prop}
  {isEnd' : β → Prop} {paths later : List Path} {ds ds' : List Deed}

theorem Course.mono {result : Except RunError α} (h : Course isArtifact isEnd result paths ds)
    (hartifact : ∀ a, isArtifact a → isArtifact' a) :
    Course isArtifact' isEnd result paths ds := by
  induction h with
  | ends hresult hend => exact .ends hresult hend
  | fails hresult => exact .fails hresult
  | refused hresult => exact .refused hresult
  | wrote ha rest ih => exact .wrote (hartifact _ ha) ih

theorem Course.of_error {e : RunError} (h : Course isArtifact isEnd (.error e) paths ds)
    (isEnd' : β → Prop) (later : List Path) :
    Course isArtifact isEnd' (.error e) (paths ++ later) ds := by
  induction h with
  | ends hresult => cases hresult
  | fails hresult => exact .fails rfl
  | refused hresult =>
      cases hresult
      exact .refused rfl
  | wrote ha rest ih => exact .wrote ha ih

theorem Course.append {a : α} {result : Except RunError β}
    (h : Course isArtifact isEnd (.ok a) paths ds)
    (h' : isEnd a → Course isArtifact isEnd' result later ds') :
    Course isArtifact isEnd' result (paths ++ later) (ds ++ ds') := by
  induction h with
  | ends hresult hend =>
      cases hresult
      exact h' hend
  | fails hresult => cases hresult
  | refused hresult => cases hresult
  | wrote ha rest ih =>
      rw [List.append_assoc]
      exact .wrote ha ih

theorem Course.of_ok {a : α} (h : Course isArtifact isEnd (.ok a) paths ds) {b : β}
    (hend : isEnd' b) : Course isArtifact isEnd' (.ok b) paths ds := by
  have hall : Course isArtifact isEnd' (.ok b) (paths ++ []) (ds ++ []) :=
    h.append fun _ => .ends rfl hend
  rwa [List.append_nil, List.append_nil] at hall

theorem Course.isEnd_of_ok {a : α} (h : Course isArtifact isEnd (.ok a) paths ds) : isEnd a := by
  induction h with
  | ends hresult hend =>
      cases hresult
      exact hend
  | fails hresult => cases hresult
  | refused hresult => cases hresult
  | wrote ha rest ih => exact ih

end

section

variable {α β : Type}

/-- Whatever a step of a run comes to, its deeds are such. -/
def Does (x : Step α) (P : List Deed → Except RunError α → Prop) : Prop :=
  ∀ ⦃t r⦄, Runs x.run t r → P (deeds t) r

variable {P : List Deed → Except RunError β → Prop}

theorem Does.imp {x : Step β} {Q : List Deed → Except RunError β → Prop} (h : Does x Q)
    (himp : ∀ ds r, Q ds r → P ds r) : Does x P :=
  fun _ _ hrun => himp _ _ (h hrun)

theorem does_bind {x : Step α} {k : α → Step β} {Q : List Deed → Except RunError α → Prop}
    (hx : Does x Q) (herror : ∀ ds e, Q ds (.error e) → P ds (.error e))
    (hk : ∀ a ds, Q ds (.ok a) → Does (k a) fun ds' r => P (ds ++ ds') r) : Does (x >>= k) P := by
  intro t r h
  rcases exists_of_runs_bind h with ⟨e, hrun, rfl⟩ | ⟨a, u, v, rfl, hrun, hrest⟩
  · exact herror _ e (hx hrun)
  · rw [deeds_append]
    exact hk a _ (hx hrun) hrest

theorem does_pure {a : β} (h : P [] (.ok a)) : Does (pure a) P := by
  rintro t r ⟨rfl, rfl⟩
  exact h

theorem does_of {ε : Type} (wrap : ε → RunError) (e : Except ε α) :
    Does (Step.of wrap e) fun ds r => ds = [] ∧ r = e.mapError wrap := by
  rintro t r ⟨rfl, rfl⟩
  exact ⟨rfl, rfl⟩

theorem does_of_bind {ε : Type} {wrap : ε → RunError} {e : Except ε α} {k : α → Step β}
    (herror : ∀ f, e = .error f → P [] (.error (wrap f)))
    (hk : ∀ a, e = .ok a → Does (k a) P) : Does (Step.of wrap e >>= k) P := by
  refine does_bind (does_of wrap e) ?_ ?_
  · rintro ds f ⟨rfl, hf⟩
    cases e with
    | ok a => cases hf
    | error g =>
        cases hf
        exact herror g rfl
  · rintro a ds ⟨rfl, ha⟩
    cases e with
    | error f => cases ha
    | ok b =>
        cases ha
        exact hk _ rfl

theorem does_report_bind {s : StageReport} {k : PUnit → Step β}
    (hk : Does (k ⟨⟩) fun ds r => P (.reported s :: ds) r) : Does (report s >>= k) P := by
  intro t r h
  obtain ⟨a, u, v, rfl, hreport, hrest⟩ := runs_bind.mp h
  obtain ⟨b, u', rfl, rfl, rfl⟩ := hreport
  rw [deeds_append]
  exact hk hrest

theorem does_putText (path : Path) (content : String) :
    Does (putText path content) fun ds r => match r with
      | .ok _ => ds = [.wrote path (Utf8.encode content)]
      | .error e => ∃ f, ds = [.refused path f] ∧ e = refused path f := by
  rintro t r ⟨outcome, u, rfl, hrest⟩
  cases outcome with
  | error f =>
      obtain ⟨rfl, rfl⟩ := hrest
      exact ⟨f, rfl, rfl⟩
  | ok _ =>
      obtain ⟨rfl, rfl⟩ := hrest
      rfl

theorem does_putText_bind {path : Path} {content : String} {k : PUnit → Step β}
    (herror : ∀ f, P [.refused path f] (.error (refused path f)))
    (hk : Does (k ⟨⟩) fun ds r => P (.wrote path (Utf8.encode content) :: ds) r) :
    Does (putText path content >>= k) P := by
  refine does_bind (does_putText path content) ?_ ?_
  · rintro ds e ⟨f, rfl, rfl⟩
    exact herror f
  · rintro ⟨⟩ ds rfl
    exact hk

theorem does_artifact_bind {isArtifact : Except RunError β → Artifact → Prop} {isEnd : β → Prop}
    {path : Path} {content : String} {report : StageReport} {x : Step β} {paths : List Path}
    (hx : Does x fun ds r => isArtifact r ⟨path, Utf8.encode content, [report]⟩ ∧
      Course (isArtifact r) isEnd r paths ds) :
    Does (putText path content >>= fun _ => Runner.report report >>= fun _ => x)
      fun ds r => Course (isArtifact r) isEnd r (path :: paths) ds := by
  refine does_putText_bind (fun _ => .refused rfl) (does_report_bind (hx.imp ?_))
  rintro ds r ⟨hartifact, hrest⟩
  exact .wrote hartifact hrest

theorem deeds_map_call (t : List (Event Call)) :
    deeds (t.map (Event.lift fun c => Effect.call c)) = [] := by
  induction t with
  | nil => rfl
  | cons e t ih => cases e <;> exact ih

theorem does_look : Does (Step.plan (.perform .look)) fun ds _ => ds = [] := by
  rintro t r ⟨files, u, rfl, rfl, -⟩
  rfl

theorem does_analysisStage (p : Runner) (s : Output.Store) (part : Partition)
    (g : ReferenceGraph) : Does (p.analysisStage s part g) fun ds _ => ds = [] := by
  rw [analysisStage]
  refine does_of_bind (fun _ _ => rfl) ?_
  rintro ⟨categories, last⟩ -
  refine does_bind does_look (fun _ _ h => h) ?_
  rintro files ds rfl t r h
  obtain ⟨outcome, u, v, rfl, hcalls, rfl, -⟩ := runs_bind.mp h
  obtain ⟨u', -, rfl⟩ := exists_of_runs_lift hcalls
  rw [List.append_nil]
  exact deeds_map_call u'

theorem does_writeUnitFiles (p : Runner) (s : Output.Store) (file : String)
    (units : List (SourceUnit × Placement)) :
    Does (p.writeUnitFiles s file units) fun ds r =>
      Course (IsUnitFile p s file units) (· = units.map fun u => s.pathFor u.2) r
        (units.map fun u => s.pathFor u.2) ds := by
  induction units with
  | nil => exact does_pure (.ends rfl rfl)
  | cons ue rest ih =>
      obtain ⟨u, e⟩ := ue
      have hlater : ∀ a, IsUnitFile p s file rest a → IsUnitFile p s file ((u, e) :: rest) a := by
        rintro _ ⟨hunit, htext⟩
        exact ⟨List.mem_cons_of_mem _ hunit, htext⟩
      rw [writeUnitFiles]
      refine does_of_bind (fun _ _ => .fails rfl) ?_
      intro text htext
      have hfirst : IsUnitFile p s file ((u, e) :: rest) ⟨s.pathFor e, Utf8.encode text, []⟩ :=
        ⟨List.mem_cons_self, htext⟩
      refine does_putText_bind (fun _ => .refused rfl) ?_
      refine does_bind ih ?_ ?_
      · intro ds f hcourse
        refine .wrote hfirst ?_
        rw [← List.append_nil (rest.map fun u => s.pathFor u.2)]
        exact (hcourse.mono hlater).of_error _ []
      · intro paths ds hcourse
        have hend := hcourse.isEnd_of_ok
        refine does_pure ?_
        rw [List.append_nil]
        exact .wrote hfirst ((hcourse.mono hlater).of_ok (congrArg _ hend))

end

/-- A run does nothing but to write its files, in their order, and to report. -/
theorem runText_does (p : Runner) (source : Bytes) (dir : Path) (file : String) :
    Does (p.runText source dir file) fun ds result =>
      (∃ e, Partition.split p.parse p.strict source file = .error e ∧ ds = [] ∧
        result = .error (.split e)) ∨
      ∃ part later, Partition.split p.parse p.strict source file = .ok part ∧
        ds = .reported (.partition part.units.length) :: later ∧
        CourseOf p ⟨dir, p.stubs⟩ part file result (artifactPaths ⟨dir, p.stubs⟩ part) later := by
  rw [runText]
  refine does_of_bind (fun e he => .inl ⟨e, he, rfl, rfl⟩) ?_
  intro part hpart
  refine does_report_bind ?_
  refine Does.imp ?_ fun ds r hcourse => .inr ⟨part, ds, hpart, rfl, hcourse⟩
  have hstep := Output.inStep_of_split hpart
  dsimp only
  generalize (⟨dir, p.stubs⟩ : Output.Store) = s
  have hunits := does_writeUnitFiles p s file (part.units.zip part.entries)
  rw [hstep.map_pathFor s] at hunits
  rw [artifactPaths]
  refine does_bind hunits (fun ds e hcourse => ?_) fun paths ds hcourse => ?_
  · exact (hcourse.mono fun _ => .unit).of_error _ _
  have hlength : paths.length = part.units.length := by
    rw [hcourse.isEnd_of_ok, List.length_map, hstep.length_eq]
  rw [hlength]
  refine Does.imp ?_ fun ds' r hrest => (hcourse.mono fun _ => .unit).append fun _ => hrest
  refine does_artifact_bind (Does.imp ?_ fun ds r hrest => ⟨.sourceMap, hrest⟩)
  refine does_of_bind (fun _ _ => .fails rfl) fun g hgraph => ?_
  refine does_artifact_bind (Does.imp ?_ fun ds r hrest => ⟨.graph hgraph, hrest⟩)
  refine does_bind (does_analysisStage p s part g) (fun ds e hds => ?_) fun analysis ds hds => ?_
  · rw [hds]
    exact .fails rfl
  rw [hds]
  refine does_artifact_bind (does_pure ?_)
  exact ⟨.analysis (r := ⟨part, g, analysis, s, paths⟩) rfl, .ends rfl ⟨rfl, rfl⟩⟩

end Dissect.Runner
