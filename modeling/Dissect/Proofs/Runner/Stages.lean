import Dissect.Proofs.Partition.Placements
import Dissect.Proofs.Plan.Lift
import Dissect.Runner

namespace Dissect.Runner

open Plan

variable {α β : Type}

def reports (t : List (Event Effect)) : List StageReport :=
  t.filterMap fun
    | .answered (.report r) _ => some r
    | _ => none

theorem reports_append (t u : List (Event Effect)) : reports (t ++ u) = reports t ++ reports u :=
  List.filterMap_append

/-- Whatever a step of a run comes to, it has reported accordingly. -/
def Reports (x : Step α) (P : List StageReport → Except RunError α → Prop) : Prop :=
  ∀ ⦃t r⦄, Runs x.run t r → P (reports t) r

def Quiet (x : Step α) : Prop := Reports x fun rs _ => rs = []

theorem exists_of_runs_bind {x : Step α} {k : α → Step β} {t : List (Event Effect)}
    {r : Except RunError β} (h : Runs (x >>= k).run t r) :
    (∃ e, Runs x.run t (.error e) ∧ r = .error e) ∨
      ∃ a u v, t = u ++ v ∧ Runs x.run u (.ok a) ∧ Runs (k a).run v r := by
  obtain ⟨a, u, v, rfl, hx, hk⟩ := runs_bind.mp h
  cases a with
  | error e =>
      obtain ⟨rfl, rfl⟩ := hk
      rw [List.append_nil]
      exact .inl ⟨e, hx, rfl⟩
  | ok a => exact .inr ⟨a, u, v, rfl, hx, hk⟩

theorem reports_pure {P : List StageReport → Except RunError α → Prop} {a : α} (h : P [] (.ok a)) :
    Reports (pure a) P := by
  rintro t r ⟨rfl, rfl⟩
  exact h

theorem reports_quiet_bind {x : Step α} {k : α → Step β}
    {P : List StageReport → Except RunError β → Prop} (hx : Quiet x) (herror : ∀ e, P [] (.error e))
    (hk : ∀ a u, Runs x.run u (.ok a) → Reports (k a) P) : Reports (x >>= k) P := by
  intro t r h
  rcases exists_of_runs_bind h with ⟨e, hrun, rfl⟩ | ⟨a, u, v, rfl, hrun, hrest⟩
  · rw [hx hrun]
    exact herror e
  · rw [reports_append, hx hrun, List.nil_append]
    exact hk a u hrun hrest

theorem reports_report_bind {s : StageReport} {k : PUnit → Step β}
    {P : List StageReport → Except RunError β → Prop}
    (hk : Reports (k ⟨⟩) fun rs r => P (s :: rs) r) : Reports (report s >>= k) P := by
  intro t r h
  obtain ⟨a, u, v, rfl, hreport, hrest⟩ := runs_bind.mp h
  obtain ⟨b, u', rfl, rfl, rfl⟩ := hreport
  rw [reports_append]
  exact hk hrest

theorem quiet_bind {x : Step α} {k : α → Step β} (hx : Quiet x) (hk : ∀ a, Quiet (k a)) :
    Quiet (x >>= k) :=
  reports_quiet_bind hx (fun _ => rfl) fun a _ _ => hk a

theorem quiet_pure (a : α) : Quiet (pure a) := reports_pure rfl

theorem quiet_of {ε : Type} (wrap : ε → RunError) (e : Except ε α) : Quiet (Step.of wrap e) := by
  rintro t r ⟨rfl, -⟩
  rfl

theorem quiet_look : Quiet (Step.plan (.perform .look)) := by
  rintro t r ⟨files, u, rfl, rfl, -⟩
  rfl

theorem quiet_putText (path : Path) (content : String) : Quiet (putText path content) := by
  rintro t r ⟨outcome, u, rfl, hrest⟩
  cases outcome with
  | error f =>
      obtain ⟨rfl, -⟩ := hrest
      rfl
  | ok _ =>
      obtain ⟨rfl, -⟩ := hrest
      rfl

theorem quiet_writeUnitFiles (p : Runner) (store : Output.Store) (sourceFile : String)
    (units : List (SourceUnit × Placement)) : Quiet (p.writeUnitFiles store sourceFile units) := by
  induction units with
  | nil => exact quiet_pure []
  | cons u rest ih =>
      rw [writeUnitFiles]
      exact quiet_bind (quiet_of _ _) fun content =>
        quiet_bind (quiet_putText _ _) fun _ => quiet_bind ih fun paths => quiet_pure _

theorem length_of_runs_writeUnitFiles {p : Runner} {store : Output.Store} {sourceFile : String}
    {units : List (SourceUnit × Placement)} {t : List (Event Effect)} {paths : List Path}
    (h : Runs (p.writeUnitFiles store sourceFile units).run t (.ok paths)) :
    paths.length = units.length := by
  induction units generalizing t paths with
  | nil =>
      obtain ⟨-, hpaths⟩ := h
      cases hpaths
      rfl
  | cons u rest ih =>
      rw [writeUnitFiles] at h
      rcases exists_of_runs_bind h with ⟨e, -, he⟩ | ⟨content, -, t₁, -, -, h⟩
      · cases he
      rcases exists_of_runs_bind h with ⟨e, -, he⟩ | ⟨-, -, t₂, -, -, h⟩
      · cases he
      rcases exists_of_runs_bind h with ⟨e, -, he⟩ | ⟨found, t₃, -, -, hrest, -, hpaths⟩
      · cases he
      cases hpaths
      rw [List.length_cons, ih hrest, List.length_cons]

theorem reports_map_call (t : List (Event Call)) :
    reports (t.map (Event.lift fun c => Effect.call c)) = [] := by
  induction t with
  | nil => rfl
  | cons e t ih => cases e <;> exact ih

theorem quiet_analysisStage (p : Runner) (store : Output.Store) (partition : Partition)
    (graph : ReferenceGraph) : Quiet (p.analysisStage store partition graph) := by
  rw [analysisStage]
  refine quiet_bind (quiet_of _ _) fun ⟨categories, last⟩ => quiet_bind quiet_look fun files => ?_
  intro t r h
  obtain ⟨outcome, u, v, rfl, hcalls, rfl, -⟩ := runs_bind.mp h
  obtain ⟨u', -, rfl⟩ := exists_of_runs_lift hcalls
  rw [List.append_nil]
  exact reports_map_call u'

def stageNames : List String := ["partition", "artifacts", "dependencies", "analysis"]

/-- What was reported are the first stages of a run; all four, with one file for each unit, if the
run has a result. -/
def Told (rs : List StageReport) : Except RunError RunResult → Prop
  | .error _ => rs.map StageReport.stage <+: stageNames
  | .ok r => ∃ edges categories timedOut,
      rs = [.partition r.partition.units.length, .files r.partition.units.length,
        .references edges, .analysis categories timedOut]

theorem Told.isPrefix {rs : List StageReport} {r : Except RunError RunResult} (h : Told rs r) :
    rs.map StageReport.stage <+: stageNames := by
  cases r with
  | error e => exact h
  | ok r =>
      obtain ⟨edges, categories, timedOut, rfl⟩ := h
      exact List.prefix_refl _

theorem eq_ok_of_runs_of {ε : Type} {wrap : ε → RunError} {e : Except ε α}
    {t : List (Event Effect)} {a : α} (h : Runs (Step.of wrap e).run t (.ok a)) : e = .ok a := by
  obtain ⟨-, hresult⟩ := h
  cases e with
  | error f => cases hresult
  | ok b =>
      cases hresult
      rfl

theorem length_entries_of_split {parse : Syntax.Parser} {strict : Bool} {source : Bytes}
    {file : String} {p : Partition} (h : Partition.split parse strict source file = .ok p) :
    p.entries.length = p.units.length := by
  rw [(Partition.entries_of_split h).1]
  exact Partition.length_placementsFrom [] p.units

/-- A run tells of its stages in their order. -/
theorem runText_told (p : Runner) (source : Bytes) (dir : Path) (sourceFile : String) :
    Reports (p.runText source dir sourceFile) Told := by
  rw [runText]
  refine reports_quiet_bind (quiet_of _ _) (fun _ => ⟨_, rfl⟩) fun partition u hsplit => ?_
  have hentries := length_entries_of_split (eq_ok_of_runs_of hsplit)
  refine reports_report_bind ?_
  refine reports_quiet_bind (quiet_writeUnitFiles _ _ _ _) (fun _ => ⟨_, rfl⟩)
    fun paths u hpaths => ?_
  have hlength : paths.length = partition.units.length := by
    rw [length_of_runs_writeUnitFiles hpaths, List.length_zip, hentries, Nat.min_self]
  refine reports_quiet_bind (quiet_putText _ _) (fun _ => ⟨_, rfl⟩) fun _ _ _ => ?_
  rw [hlength]
  refine reports_report_bind ?_
  refine reports_quiet_bind (quiet_of _ _) (fun _ => ⟨_, rfl⟩) fun graph _ _ => ?_
  refine reports_quiet_bind (quiet_putText _ _) (fun _ => ⟨_, rfl⟩) fun _ _ _ => ?_
  refine reports_report_bind ?_
  refine reports_quiet_bind (quiet_analysisStage _ _ _ _) (fun _ => ⟨_, rfl⟩)
    fun analysis _ _ => ?_
  refine reports_quiet_bind (quiet_putText _ _) (fun _ => ⟨_, rfl⟩) fun _ _ _ => ?_
  refine reports_report_bind (reports_pure ?_)
  exact ⟨_, _, _, rfl⟩

theorem run_told (p : Runner) (source dir : Path) : Reports (p.run source dir) Told := by
  rw [run]
  refine reports_quiet_bind quiet_look (fun _ => ⟨_, rfl⟩) fun files _ _ => ?_
  refine reports_quiet_bind (quiet_of _ _) (fun _ => ⟨_, rfl⟩) fun content _ _ => ?_
  exact runText_told p content dir source.name

end Dissect.Runner
