import Dissect.Proofs.Job.Registry
import Dissect.Proofs.Service.Course

namespace Dissect.Service

open Job (Update)

def reportsOf (es : List Job.Event) : List Update :=
  es.filterMap fun
    | .progressed u => some u
    | _ => none

theorem reportsOf_append (es ds : List Job.Event) :
    reportsOf (es ++ ds) = reportsOf es ++ reportsOf ds :=
  List.filterMap_append

theorem reportsOf_map_progressed (rs : List StageReport) :
    reportsOf (rs.map progressed) = rs.map updateOf := by
  rw [reportsOf, List.filterMap_map]
  exact congrFun List.filterMap_eq_map rs

/-- The record of a job agrees with what the run of the job has reported. -/
structure Lawful (job : Job) (reported : List Update) : Prop where
  stages : reported.map (·.stage) <+: Runner.stageNames.map some
  stagesCompleted : job.progress.stagesCompleted = reported.length
  stage : job.progress.stage = (reported.getLast?.bind (·.stage)).getD ""
  queued : job.status = .queued → job.startedAt = none ∧ reported = []
  completed : job.status = .completed → reported.length = 4 ∧ job.error = none ∧
    ∃ fields, job.result = some (.obj fields) ∧
      fields.lookup "units" = some (.int job.progress.unitsExtracted) ∧
      job.progress.unitFilesWritten = job.progress.unitsExtracted
  failed : job.status = .failed → job.error.isSome ∧ job.result = none
  started_after : ∀ τ ∈ job.startedAt, job.createdAt ≤ τ
  ended_after : ∀ τ ∈ job.completedAt, job.createdAt ≤ τ ∧ ∀ τ' ∈ job.startedAt, τ' ≤ τ

namespace Lawful

variable {job : Job} {reported : List Update}

theorem stagesCompleted_le (h : Lawful job reported) : job.progress.stagesCompleted ≤ 4 := by
  have hlength := h.stages.length_le
  rw [List.length_map, List.length_map] at hlength
  rw [h.stagesCompleted]
  exact hlength

theorem withTask (h : Lawful job reported) (mark : Option Job.TaskMark) :
    Lawful { job with task := mark } reported :=
  ⟨h.stages, h.stagesCompleted, h.stage, h.queued, h.completed, h.failed, h.started_after,
    h.ended_after⟩

theorem cancel (h : Lawful job reported) {now : Float} (hcreated : job.createdAt ≤ now)
    (hstarted : ∀ τ ∈ job.startedAt, τ ≤ now) : Lawful (job.cancel now) reported where
  stages := h.stages
  stagesCompleted := h.stagesCompleted
  stage := h.stage
  queued := fun hstatus => nomatch hstatus
  completed := fun hstatus => nomatch hstatus
  failed := fun hstatus => nomatch hstatus
  started_after := h.started_after
  ended_after := by
    intro τ hτ
    cases hτ
    exact ⟨hcreated, hstarted⟩

end Lawful

def begun (id sourcePath outputDir : String) (created started : Float) (rs : List StageReport) :
    Job :=
  { Job.queued id sourcePath outputDir created with
    status := .running
    startedAt := some started
    progress := (rs.map updateOf).foldl Job.Progress.apply .initial }

theorem isSome_stage_updateOf (r : StageReport) : (updateOf r).stage = some r.stage := by
  cases r <;> rfl

theorem map_stage_updateOf (rs : List StageReport) :
    (rs.map updateOf).map (·.stage) = (rs.map StageReport.stage).map some := by
  rw [List.map_map, List.map_map]
  exact List.map_congr_left fun r _ => isSome_stage_updateOf r

theorem lawful_begun {id sourcePath outputDir : String} {created started : Float}
    {rs : List StageReport} (hrs : rs.map StageReport.stage <+: Runner.stageNames)
    (htimes : created ≤ started) :
    Lawful (begun id sourcePath outputDir created started rs) (rs.map updateOf) := by
  have hsome : ∀ u ∈ rs.map updateOf, u.stage.isSome := by
    intro u hu
    obtain ⟨r, -, rfl⟩ := List.mem_map.mp hu
    rw [isSome_stage_updateOf]
    rfl
  refine ⟨?_, ?_, ?_, fun h => (nomatch h), fun h => (nomatch h), fun h => (nomatch h), ?_,
    fun _ h => (nomatch h)⟩
  · rw [map_stage_updateOf]
    exact hrs.map some
  · exact (Job.stagesCompleted_foldl hsome _).trans (Nat.zero_add _)
  · exact Job.stage_foldl hsome _
  · intro τ hτ
    cases hτ
    exact htimes

theorem reportsOf_started (rs : List StageReport) (es : List Job.Event) :
    reportsOf (.started :: (rs.map progressed ++ es)) = rs.map updateOf ++ reportsOf es := by
  have h := reportsOf_append (rs.map progressed) es
  rw [reportsOf_map_progressed] at h
  exact h

theorem exists_replay_of_started {story : List (Float × Job.Event)} {rs : List StageReport}
    {es : List Job.Event} (h : story.map Prod.snd = .started :: (rs.map progressed ++ es)) :
    ∃ started times last, story.map Prod.fst = started :: (times ++ last.map Prod.fst) ∧
      last.map Prod.snd = es ∧ ∀ id sourcePath outputDir created,
        (Job.queued id sourcePath outputDir created).replay story
          = (begun id sourcePath outputDir created started rs).replay last := by
  obtain ⟨⟨started, e⟩, rest, rfl, he, hrest⟩ := List.map_eq_cons_iff.mp h
  cases he
  obtain ⟨middle, last, rfl, hmiddle, hlast⟩ := List.map_eq_append_iff.mp hrest
  have hprogressed : middle.map Prod.snd = (rs.map updateOf).map .progressed := by
    rw [hmiddle, List.map_map]
    rfl
  refine ⟨started, middle.map Prod.fst, last, ?_, hlast, ?_⟩
  · rw [List.map_cons, List.map_append]
  · intro id sourcePath outputDir created
    rw [Job.replay_cons, Job.replay_append, Job.replay_of_progressed hprogressed]
    rfl

theorem progress_of_told {rs : List StageReport} {r : RunResult} (h : Runner.Told rs (.ok r)) :
    rs.length = 4 ∧
      ((rs.map updateOf).foldl Job.Progress.apply .initial).unitsExtracted
        = r.partition.units.length ∧
      ((rs.map updateOf).foldl Job.Progress.apply .initial).unitFilesWritten
        = r.partition.units.length := by
  obtain ⟨edges, categories, timedOut, rfl⟩ := h
  exact ⟨rfl, rfl, rfl⟩

section Endings

variable {id sourcePath outputDir : String} {created started ended : Float}
  {rs : List StageReport}

theorem ended_after_of (hcreated : created ≤ ended) (hended : started ≤ ended) :
    ∀ τ ∈ some ended, created ≤ τ ∧ ∀ τ' ∈ some started, τ' ≤ τ := by
  intro τ hτ
  cases hτ
  refine ⟨hcreated, ?_⟩
  intro τ' hτ'
  cases hτ'
  exact hended

theorem lawful_completed {r : RunResult} (h : Runner.Told rs (.ok r)) (hstarted : created ≤ started)
    (hcreated : created ≤ ended) (hended : started ≤ ended) :
    Lawful ((begun id sourcePath outputDir created started rs).apply ended
      (.completed (.obj r.fields))) (rs.map updateOf) := by
  have hbegun := @lawful_begun id sourcePath outputDir created started rs h.isPrefix hstarted
  obtain ⟨hlength, hextracted, hwritten⟩ := progress_of_told h
  refine ⟨hbegun.stages, hbegun.stagesCompleted, hbegun.stage, fun h => (nomatch h), fun _ => ?_,
    fun h => (nomatch h), hbegun.started_after, ended_after_of hcreated hended⟩
  refine ⟨by rw [List.length_map, hlength], rfl, r.fields, rfl, ?_, hwritten.trans hextracted.symm⟩
  change some (Json.int r.partition.units.length) = some (Json.int _)
  rw [← hextracted]
  rfl

theorem lawful_failed {message : String} (h : rs.map StageReport.stage <+: Runner.stageNames)
    (hstarted : created ≤ started) (hcreated : created ≤ ended) (hended : started ≤ ended) :
    Lawful ((begun id sourcePath outputDir created started rs).apply ended (.failed message))
      (rs.map updateOf) := by
  have hbegun := @lawful_begun id sourcePath outputDir created started rs h hstarted
  exact ⟨hbegun.stages, hbegun.stagesCompleted, hbegun.stage, fun h => (nomatch h),
    fun h => (nomatch h), fun _ => ⟨rfl, rfl⟩, hbegun.started_after,
    ended_after_of hcreated hended⟩

end Endings

theorem lawful_queued (id sourcePath outputDir : String) (created : Float) :
    Lawful (Job.queued id sourcePath outputDir created) [] :=
  ⟨List.nil_prefix, rfl, rfl, fun _ => ⟨rfl, rfl⟩, fun h => (nomatch h), fun h => (nomatch h),
    fun _ h => (nomatch h), fun _ h => (nomatch h)⟩

theorem exists_replay_of_ended {story : List (Float × Job.Event)} {rs : List StageReport}
    {e : Job.Event} (h : story.map Prod.snd = .started :: (rs.map progressed ++ [e])) :
    ∃ started times ended, story.map Prod.fst = started :: (times ++ [ended]) ∧
      ∀ id sourcePath outputDir created,
        (Job.queued id sourcePath outputDir created).replay story
          = (begun id sourcePath outputDir created started rs).apply ended e := by
  obtain ⟨started, times, last, hfst, hlast, hreplay⟩ := exists_replay_of_started h
  obtain ⟨⟨ended, e'⟩, rest, rfl, he, hrest⟩ := List.map_eq_cons_iff.mp hlast
  cases he
  obtain rfl := List.map_eq_nil_iff.mp hrest
  exact ⟨started, times, ended, hfst, hreplay⟩

theorem le_of_pairwise {created started ended : Float} {times : List Float}
    (h : (created :: started :: (times ++ [ended])).Pairwise (· ≤ ·)) :
    created ≤ started ∧ created ≤ ended ∧ started ≤ ended := by
  have hended : ended ∈ times ++ [ended] := List.mem_append_right _ List.mem_cons_self
  obtain ⟨hcreated, hlater⟩ := List.pairwise_cons.mp h
  exact ⟨hcreated _ List.mem_cons_self, hcreated _ (List.mem_cons_of_mem _ hended),
    List.rel_of_pairwise_cons hlater hended⟩

/-- A job that was told of things in a course, none of them before what came earlier, is lawful. -/
theorem lawful_of_course {story : List (Float × Job.Event)} (h : Course (story.map Prod.snd))
    (id sourcePath outputDir : String) {created : Float}
    (htimes : (created :: story.map Prod.fst).Pairwise (· ≤ ·)) :
    Lawful ((Job.queued id sourcePath outputDir created).replay story)
      (reportsOf (story.map Prod.snd)) := by
  generalize hes : story.map Prod.snd = es at h
  cases h with
  | waiting =>
      obtain rfl := List.map_eq_nil_iff.mp hes
      exact lawful_queued id sourcePath outputDir created
  | @running rs h =>
      rw [← List.append_nil (rs.map progressed)] at hes
      obtain ⟨started, times, last, hfst, hlast, hreplay⟩ := exists_replay_of_started hes
      obtain rfl := List.map_eq_nil_iff.mp hlast
      rw [hfst] at htimes
      have hreports := reportsOf_started rs []
      rw [List.append_nil] at hreports
      rw [hreplay, hreports]
      change Lawful _ (rs.map updateOf ++ [])
      rw [List.append_nil]
      exact lawful_begun h (List.rel_of_pairwise_cons htimes List.mem_cons_self)
  | @completed rs r h =>
      obtain ⟨started, times, ended, hfst, hreplay⟩ := exists_replay_of_ended hes
      rw [hfst] at htimes
      obtain ⟨hstarted, hcreated, hended⟩ := le_of_pairwise htimes
      rw [hreplay, reportsOf_started]
      change Lawful _ (rs.map updateOf ++ [])
      rw [List.append_nil]
      exact lawful_completed h hstarted hcreated hended
  | @failed rs message h =>
      obtain ⟨started, times, ended, hfst, hreplay⟩ := exists_replay_of_ended hes
      rw [hfst] at htimes
      obtain ⟨hstarted, hcreated, hended⟩ := le_of_pairwise htimes
      rw [hreplay, reportsOf_started]
      change Lawful _ (rs.map updateOf ++ [])
      rw [List.append_nil]
      exact lawful_failed h hstarted hcreated hended

end Dissect.Service
