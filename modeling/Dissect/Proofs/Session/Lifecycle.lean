import Dissect.Proofs.Session.Await
import Dissect.Proofs.Session.Fates

/-!
The life of a job. At every moment of a session the record of each job agrees with what its run has
reported; a job that has ended is never changed again, and no job is changed by what is done to
another.
-/

namespace Dissect.Session

open Plan (Event Step Steps)
open Service (noteOf? Lawful reportsOf LeavesOpen)

variable {σ : Type} {s s' : Session σ} {h : History} {id : String}

theorem lawful_record {sourcePath dir : String} {created : Float} {task : Task}
    (htracks : Tracks s h id task)
    (htimes : (created :: (storyOf id h).map Prod.fst).Pairwise (· ≤ ·)) :
    Lawful (record id sourcePath dir created (storyOf id h) task)
      (reportsOf ((storyOf id h).map Prod.snd)) :=
  (Service.lawful_of_course htracks.course.2 id sourcePath dir htimes).withTask _

theorem Accounted.lawful (hs : Accounted s h) (hclock : (h.map Prod.fst).Pairwise (· ≤ ·))
    {job : Job} (hjob : s.world.jobs.find? id = some job) :
    Lawful job (reportsOf ((storyOf id h).map Prod.snd)) := by
  cases hs.fates id with
  | unknown hnone =>
      rw [hjob] at hnone
      cases hnone
  | kept htracks hkept htimes =>
      obtain rfl := Option.some.inj (hjob.symm.trans hkept)
      exact lawful_record htracks (hclock.sublist htimes)
  | @cancelled sourcePath dir created ended task htracks hcancelled hopen htimes =>
      obtain rfl := Option.some.inj (hjob.symm.trans hcancelled)
      have hpairs := hclock.sublist htimes
      rw [← List.cons_append] at hpairs
      obtain ⟨hstory, -, hended⟩ := List.pairwise_append.mp hpairs
      have hlast : ended ∈ [ended] := List.mem_cons_self
      refine (lawful_record htracks hstory).cancel ?_ ?_
      · rw [record, Job.replay_createdAt]
        exact hended created List.mem_cons_self ended hlast
      · intro τ hτ
        have hmem := Job.mem_of_startedAt_replay rfl hτ
        exact hended τ (List.mem_cons_of_mem _ hmem) ended hlast

/-- What a job can become: stages stay completed, and a job that has ended stays as it is. -/
structure Becomes (job job' : Job) : Prop where
  stages : job.progress.stagesCompleted ≤ job'.progress.stagesCompleted
  ended : job.status.isOpen = false → ∃ mark, job' = { job with task := mark }

theorem Becomes.refl (job : Job) : Becomes job job := ⟨Nat.le_refl _, fun _ => ⟨job.task, rfl⟩⟩

theorem Becomes.trans {job job' job'' : Job} (h : Becomes job job') (h' : Becomes job' job'') :
    Becomes job job'' := by
  refine ⟨h.stages.trans h'.stages, ?_⟩
  intro hended
  obtain ⟨mark, rfl⟩ := h.ended hended
  exact h'.ended hended

theorem becomes_cancel {job : Job} (hopen : job.status.isOpen) (time : Float) :
    Becomes job (job.cancel time) := by
  refine ⟨Nat.le_refl _, ?_⟩
  intro hended
  rw [hopen] at hended
  cases hended

theorem isOpen_replay {job : Job} (hopen : job.status.isOpen) {story : List (Float × Job.Event)}
    (hstory : ∀ d ∈ story.map Prod.snd, LeavesOpen d) : (job.replay story).status.isOpen := by
  induction story generalizing job with
  | nil => exact hopen
  | cons x story ih =>
      rw [List.map_cons, List.forall_mem_cons] at hstory
      obtain ⟨time, e⟩ := x
      refine ih ?_ hstory.2
      rcases hstory.1 with rfl | ⟨u, rfl⟩
      · rfl
      · exact hopen

theorem becomes_record {sourcePath dir : String} {created time : Float} {task next : Task}
    {e : Option (Event TaskEffect)} (htracks : Tracks s' (h ++ [(time, .stepped id e)]) id next) :
    Becomes (record id sourcePath dir created (storyOf id h) task)
      (record id sourcePath dir created (storyOf id (h ++ [(time, .stepped id e)])) next) := by
  have hcourse := htracks.course.2
  rw [storyOf_step] at hcourse ⊢
  cases hnote : e.bind noteOf? with
  | none =>
      rw [Option.map_none, Option.toList_none, List.append_nil]
      exact ⟨Nat.le_refl _, fun _ => ⟨_, rfl⟩⟩
  | some note =>
      -- what was told last shows that the job was still open
      rw [hnote, Option.map_some, Option.toList_some, List.map_append] at hcourse
      rw [Option.map_some, Option.toList_some]
      refine ⟨?_, ?_⟩
      · simp only [record, Job.replay_concat]
        exact Job.stagesCompleted_le_apply _ time note.2
      · intro hended
        have hopen := @isOpen_replay (Job.queued id sourcePath dir created) rfl (storyOf id h)
          (Service.Course.leavesOpen hcourse)
        rw [record] at hended
        rw [hopen] at hended
        cases hended

theorem Accounted.find?_start (hs : Accounted s h) {job : Job}
    (hjob : s.world.jobs.find? id = some job) (sourcePath : String) (runName : Option String)
    (hids : s.ids ≠ []) :
    (s.start sourcePath runName).2.world.jobs.find? id = s.world.jobs.find? id := by
  by_cases hcomplaint : Service.complaint s.world.files sourcePath = .ok none
  · obtain ⟨new, rest, hcons⟩ := List.exists_cons_of_ne_nil hids
    have hmem : new ∈ s.ids := hcons ▸ List.mem_cons_self
    have hne : id ≠ new := by
      rintro rfl
      rw [hs.fresh id hmem] at hjob
      cases hjob
    obtain ⟨dir, hrequested⟩ :=
      exists_requested hcomplaint hcons (fun heq => hs.named (heq ▸ hmem)) runName
    exact (hrequested.jobs id).trans (if_neg hne)
  · rw [start_of_not_none hcomplaint]

theorem exists_becomes_cancel {job : Job} (hjob : s.world.jobs.find? id = some job) :
    ∃ job', (s.cancel id).2.world.jobs.find? id = some job' ∧ Becomes job job' := by
  rw [jobs_cancel]
  cases hopen : job.status.isOpen with
  | false =>
      rw [Job.Registry.cancel_closed hjob hopen]
      exact ⟨job, hjob, .refl job⟩
  | true =>
      exact ⟨_, Job.Registry.find?_cancel_open hjob hopen s.world.clock, becomes_cancel hopen _⟩

theorem Accounted.becomes_of_move {l : Label} (hs : Accounted s h) (hmove : Move s l s')
    {job : Job} (hjob : s.world.jobs.find? id = some job) :
    ∃ job', s'.world.jobs.find? id = some job' ∧ Becomes job job' ∧
      (l.subject? ≠ some id → job' = job) := by
  have hsame (heq : s'.world.jobs.find? id = s.world.jobs.find? id) :
      ∃ job', s'.world.jobs.find? id = some job' ∧ Becomes job job' ∧
        (l.subject? ≠ some id → job' = job) :=
    ⟨job, heq.trans hjob, .refl job, fun _ => rfl⟩
  cases hmove with
  | elapse hjobs htasks => exact hsame (by rw [hjobs])
  | request sourcePath runName hids => exact hsame (hs.find?_start hjob sourcePath runName hids)
  | cancel id' =>
      by_cases hne : id = id'
      · subst hne
        obtain ⟨job', hjob', hbecomes⟩ := exists_becomes_cancel hjob
        exact ⟨job', hjob', hbecomes, fun hsubject => absurd rfl hsubject⟩
      · exact hsame (Job.Registry.find?_cancel_of_ne hne s.world.clock)
  | @step id' task next e world htask hcancelled hstep hworld =>
      obtain ⟨htracks, sourcePath, dir, created, hkept, -⟩ :=
        hs.exists_kept htask hcancelled hstep
      by_cases hne : id = id'
      · subst hne
        obtain rfl := Option.some.inj (hjob.symm.trans hkept)
        exact ⟨_, find?_of_step htracks hstep hworld hkept,
          becomes_record (htracks.step hkept hstep hworld s.world.clock),
          fun hsubject => absurd rfl hsubject⟩
      · exact hsame (find?_of_step_of_ne htracks hstep hworld hne)

theorem Accounted.becomes_of_moves {k : History} (hs : Accounted s h) (hmoves : Moves s k s')
    {job : Job} (hjob : s.world.jobs.find? id = some job) :
    ∃ job', s'.world.jobs.find? id = some job' ∧ Becomes job job' ∧
      ((∀ x ∈ k, x.2.subject? ≠ some id) → job' = job) := by
  induction hmoves with
  | refl => exact ⟨job, hjob, .refl job, fun _ => rfl⟩
  | tail earlier last ih =>
      obtain ⟨job', hjob', hbecomes, hsame⟩ := ih
      obtain ⟨job'', hjob'', hbecomes', hsame'⟩ := (hs.moves earlier).becomes_of_move last hjob'
      refine ⟨job'', hjob'', hbecomes.trans hbecomes', ?_⟩
      intro hothers
      rw [hsame' (hothers _ (List.mem_append_right _ List.mem_cons_self)),
        hsame fun x hx => hothers x (List.mem_append_left _ hx)]

theorem cancel_iff (s : Session σ) (id : String) :
    ((s.cancel id).1 = true ↔ ∃ job, s.world.jobs.find? id = some job ∧
        (job.status = .queued ∨ job.status = .running)) ∧
      ((s.cancel id).1 = false → (s.cancel id).2 = s) := by
  obtain ⟨hiff, hsame⟩ := Job.Registry.cancel_iff s.world.jobs id s.world.clock
  have hopen (status : Job.Status) : status.isOpen ↔ status = .queued ∨ status = .running := by
    cases status <;> decide
  simp only [hopen] at hiff
  refine ⟨hiff, ?_⟩
  intro hfalse
  have hjobs : (s.cancel id).2 = { s with world := { s.world with
    jobs := (s.world.jobs.cancel id s.world.clock).1 } } := rfl
  rw [hjobs, hsame hfalse]

/-- The life of jobs in a session that begins with none, whatever is requested, cancelled and
answered, and in whichever order tasks take their steps. -/
theorem lifecycle_of_moves {s₀ s : Session σ} {h : History} (hfresh : Fresh s₀)
    (hmoves : Moves s₀ h s) (hclock : (h.map Prod.fst).Pairwise (· ≤ ·)) :
    (∀ id job, s.world.jobs.find? id = some job →
      Lawful job (reportsOf ((storyOf id h).map Prod.snd)) ∧ job.progress.stagesCompleted ≤ 4) ∧
    (∀ id, ((s.cancel id).1 = true ↔ ∃ job, s.world.jobs.find? id = some job ∧
        (job.status = .queued ∨ job.status = .running)) ∧
      ((s.cancel id).1 = false → (s.cancel id).2 = s)) ∧
    ∀ k s', Moves s k s' → ∀ id job, s.world.jobs.find? id = some job →
      ∃ job', s'.world.jobs.find? id = some job' ∧ Becomes job job' ∧
        ((∀ x ∈ k, x.2.subject? ≠ some id) → job' = job) := by
  have hs : Accounted s h := hfresh.accounted.moves hmoves
  refine ⟨?_, cancel_iff s, ?_⟩
  · intro id job hjob
    have hlawful := hs.lawful hclock hjob
    exact ⟨hlawful, hlawful.stagesCompleted_le⟩
  · intro k s' hk id job hjob
    exact hs.becomes_of_moves hk hjob

theorem fresh_unanswered (service : Service) : Fresh (unanswered service) :=
  ⟨rfl, rfl, by simp [unanswered], by simp [unanswered]⟩

def emptyProgram : Syntax.Parser :=
  fun _ => some (.node ⟨"program", true, false, false, 0, 0, none⟩ [])

def emptySources (maxRetries : Int) : Service :=
  ⟨⟨emptyProgram, true, "offline", true, .standard, maxRetries, 1.0, none, true⟩,
    ⟨"", ["output"]⟩⟩

theorem lifecycle_of_moves_emptySource :
    ∃ h job job', Moves (unanswered (emptySources 3)) h (awaited (emptySources 3)) ∧
      (h.map Prod.fst).Pairwise (· ≤ ·) ∧
      (awaited (emptySources 3)).world.jobs.find? "11111111" = some job ∧
      job.status = .completed ∧ Lawful job (reportsOf ((storyOf "11111111" h).map Prod.snd)) ∧
      (awaited (emptySources 3)).world.jobs.find? "22222222" = some job' ∧
      job'.status = .cancelled ∧ Lawful job' (reportsOf ((storyOf "22222222" h).map Prod.snd)) ∧
      ((awaited (emptySources 3)).cancel "22222222").1 = false := by
  obtain ⟨h, hmoves, hclock⟩ := exists_moves_awaited (emptySources 3)
  have hstatus : ((awaited (emptySources 3)).world.jobs.find? "11111111").map (·.status)
      = some .completed := by
    decide +kernel
  have hstatus' : ((awaited (emptySources 3)).world.jobs.find? "22222222").map (·.status)
      = some .cancelled := by
    decide +kernel
  obtain ⟨job, hjob, hcompleted⟩ := Option.map_eq_some_iff.mp hstatus
  obtain ⟨job', hjob', hcancelled⟩ := Option.map_eq_some_iff.mp hstatus'
  obtain ⟨hlawful, hcancel, -⟩ :=
    lifecycle_of_moves (fresh_unanswered (emptySources 3)) hmoves hclock
  refine ⟨h, job, job', hmoves, hclock, hjob, hcompleted, (hlawful _ job hjob).1, hjob',
    hcancelled, (hlawful _ job' hjob').1, ?_⟩
  rw [Bool.eq_false_iff]
  intro htrue
  obtain ⟨found, hfound, hopen⟩ := (hcancel "22222222").1.mp htrue
  obtain rfl := Option.some.inj (hjob'.symm.trans hfound)
  rw [hcancelled] at hopen
  simp at hopen

end Dissect.Session
