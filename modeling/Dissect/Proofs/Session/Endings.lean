import Dissect.Proofs.Session.Lifecycle
import Dissect.Settings.Assembly

namespace Dissect.Session

open Service (Ending progressed)

variable {σ : Type} {s : Session σ} {h : History} {id : String}

/-- What a task with an outcome leaves its job as. -/
def LeftBehind (job : Job) : Except ServiceError Json → Prop
  | .ok _ => (job.status = .completed ∨ job.status = .failed) ∧ job.completedAt.isSome
  | .error e => job.status = .running ∧ job.completedAt = none ∧
      ∃ f, e = .run f ∧ f.isExpected = false

theorem leftBehind_of_ending {story : List (Float × Job.Event)} {outcome : Except ServiceError Json}
    (h : Ending id (story.map Prod.snd) outcome) (htold : story ≠ [])
    (sourcePath dir : String) (created : Float) :
    LeftBehind ((Job.queued id sourcePath dir created).replay story) outcome := by
  generalize hes : story.map Prod.snd = es at h
  cases h with
  | noJob => exact absurd (List.map_eq_nil_iff.mp hes) htold
  | completed r h =>
      obtain ⟨started, times, ended, -, hreplay⟩ := Service.exists_replay_of_ended hes
      rw [hreplay]
      exact ⟨.inl rfl, rfl⟩
  | failed e h he =>
      obtain ⟨started, times, ended, -, hreplay⟩ := Service.exists_replay_of_ended hes
      rw [hreplay]
      exact ⟨.inr rfl, rfl⟩
  | @died rs e h he =>
      rw [← List.append_nil (rs.map progressed)] at hes
      obtain ⟨started, times, last, -, hlast, hreplay⟩ := Service.exists_replay_of_started hes
      obtain rfl := List.map_eq_nil_iff.mp hlast
      rw [hreplay]
      exact ⟨rfl, rfl, e, rfl, he⟩

theorem Tracks.ending {outcome : Except ServiceError Json}
    (htracks : Tracks s h id (.done outcome)) :
    Ending id ((storyOf id h).map Prod.snd) outcome ∧ storyOf id h ≠ [] := by
  obtain ⟨es, hnotes, hending, hfound⟩ :=
    Service.ending_of_runs_runJob (Plan.steps_done_iff.mp htracks.steps)
  have hstory := map_snd_storyOf_of_notes hnotes
  refine ⟨hstory ▸ hending, ?_⟩
  intro hnil
  rw [hnil] at hstory
  exact htracks.found _ (hfound hstory.symm) (if_pos rfl)

/-- When its task has ended, a job that was not cancelled is completed or failed, unless the task
died of a failure that is not expected; then the job is still running. -/
theorem leftBehind_of_moves {s₀ : Session σ} (hfresh : Fresh s₀) (hmoves : Moves s₀ h s)
    {outcome : Except ServiceError Json} (hended : s.taskOf? id = some (.done outcome)) :
    ∃ job, s.world.jobs.find? id = some job ∧
      (job.status ≠ .cancelled → LeftBehind job outcome) := by
  have hs : Accounted s h := hfresh.accounted.moves hmoves
  cases hs.fates id with
  | unknown _ hnone =>
      rw [hended] at hnone
      cases hnone
  | kept htracks hjob =>
      obtain rfl := Option.some.inj (hended.symm.trans htracks.isTask)
      obtain ⟨hending, htold⟩ := htracks.ending
      refine ⟨_, hjob, fun _ => ?_⟩
      -- nothing is said of the mark of the task, in which alone the job differs from its story
      cases outcome with
      | ok answer => exact leftBehind_of_ending hending htold _ _ _
      | error e => exact leftBehind_of_ending hending htold _ _ _
  | cancelled htracks hjob => exact ⟨_, hjob, fun hstatus => absurd rfl hstatus⟩

theorem exists_outcome_awaited {service : Service}
    (h : (((awaited service).taskOf? "11111111").bind (·.result?)).isSome) :
    ∃ outcome, (awaited service).taskOf? "11111111" = some (.done outcome) := by
  obtain ⟨outcome, houtcome⟩ := Option.isSome_iff_exists.mp h
  obtain ⟨task, htask, hresult⟩ := Option.bind_eq_some_iff.mp houtcome
  rw [Plan.eq_done_of_result? hresult] at htask
  exact ⟨outcome, htask⟩

theorem leftBehind_of_moves_emptySource :
    ∃ h outcome job, Moves (unanswered (emptySources 2)) h (awaited (emptySources 2)) ∧
      (awaited (emptySources 2)).taskOf? "11111111" = some (.done outcome) ∧
      (awaited (emptySources 2)).world.jobs.find? "11111111" = some job ∧
      job.status ≠ .cancelled ∧ LeftBehind job outcome := by
  obtain ⟨h, hmoves, -⟩ := exists_moves_awaited (emptySources 2)
  have hended : (((awaited (emptySources 2)).taskOf? "11111111").bind (·.result?)).isSome := by
    decide +kernel
  obtain ⟨outcome, htask⟩ := exists_outcome_awaited hended
  obtain ⟨job, hjob, hleft⟩ := leftBehind_of_moves (fresh_unanswered (emptySources 2)) hmoves htask
  have hstatus : ((awaited (emptySources 2)).world.jobs.find? "11111111").map (·.status)
      = some .completed := by
    decide +kernel
  rw [hjob, Option.map_some, Option.some.injEq] at hstatus
  have hopen : job.status ≠ .cancelled := by
    rw [hstatus]
    decide
  exact ⟨h, outcome, job, hmoves, htask, hjob, hopen, hleft hopen⟩

def serviceOf? (env : Environment) (parse : Syntax.Parser) : Option Service := do
  let settings ← (Settings.ofEnvironment env).toOption
  let backend ← settings.backend.toOption
  (settings.service parse backend).toOption

/-- An environment that allows no attempts is accepted, but a job then dies when it comes to its
analysis. -/
theorem leftBehind_running_noAttempts :
    ∃ service, serviceOf? [("LLM_PROVIDER", "offline"), ("MAX_RETRIES", "0")] emptyProgram
        = some service ∧
      (∃ h, Moves (unanswered service) h (awaited service)) ∧
      (∃ outcome, (awaited service).taskOf? "11111111" = some (.done outcome)) ∧
      ∃ job, (awaited service).world.jobs.find? "11111111" = some job ∧
        job.status = .running ∧ job.completedAt = none := by
  have hruns : ((serviceOf? [("LLM_PROVIDER", "offline"), ("MAX_RETRIES", "0")]
      emptyProgram).map fun service =>
        ((((awaited service).taskOf? "11111111").bind (·.result?)).isSome,
          ((awaited service).world.jobs.find? "11111111").map fun job =>
            (job.status, job.completedAt.isNone)))
      = some (true, some (.running, true)) := by
    decide +kernel
  obtain ⟨service, hservice, hpair⟩ := Option.map_eq_some_iff.mp hruns
  obtain ⟨hended, hfind⟩ := Prod.mk.inj hpair
  obtain ⟨job, hjob, hstatus⟩ := Option.map_eq_some_iff.mp hfind
  obtain ⟨hrunning, hnone⟩ := Prod.mk.inj hstatus
  obtain ⟨h, hmoves, -⟩ := exists_moves_awaited service
  exact ⟨service, hservice, ⟨h, hmoves⟩, exists_outcome_awaited hended, job, hjob, hrunning,
    Option.isNone_iff_eq_none.mp hnone⟩

end Dissect.Session
