import Dissect.Json.Access
import Dissect.Proofs.Job.Registry

/-!
What any changes of the registry make of its jobs. A job is what the changes about it make of it.
Once it has ended it stays as it ended, except that starting or ending it again is never refused; and
its share of completed stages counts every report.
-/

namespace Dissect.Job

/-- A change of the registry of jobs: a new job, something that happens to a job, a cancellation. -/
inductive Change
  | create (id sourcePath outputDir : String)
  | track (id : String) (e : Event)
  | cancel (id : String)

namespace Change

def created? : Change → Option String
  | .create id _ _ => some id
  | _ => none

/-- A job is started or ended, whatever its state is. -/
def overrides (id : String) : Change → Bool
  | .track _ (.progressed _) => false
  | .track id' _ => id' == id
  | _ => false

def reportsStage (id : String) : Change → Bool
  | .track id' (.progressed u) => id' == id && u.stage.isSome
  | _ => false

end Change

def created (changes : List (Float × Change)) : List String := changes.filterMap (·.2.created?)

theorem created_append (a b : List (Float × Change)) :
    created (a ++ b) = created a ++ created b :=
  List.filterMap_append

def since (id : String) (changes : List (Float × Change)) : List (Float × Change) :=
  (changes.dropWhile (·.2.created? != some id)).tail

def reports (id : String) (changes : List (Float × Change)) : Nat :=
  (since id changes).countP (·.2.reportsStage id)

def changed (id : String) (job : Job) : Float × Change → Job
  | (_, .create _ _ _) => job
  | (time, .track id' e) => if id' = id then job.apply time e else job
  | (time, .cancel id') => if id' = id ∧ job.status.isOpen then job.cancel time else job

/-- What a change can do to a job: nothing, what it records, or a cancellation before its end. -/
theorem changed_cases (id : String) (job : Job) (x : Float × Change) :
    (x.2.overrides id = false ∧ x.2.reportsStage id = false ∧ job.changed id x = job) ∨
      (∃ e, x.2 = .track id e ∧ job.changed id x = job.apply x.1 e) ∨
      (x.2 = .cancel id ∧ job.status.isOpen ∧ job.changed id x = job.cancel x.1) := by
  obtain ⟨time, change⟩ := x
  cases change with
  | create => exact .inl ⟨rfl, rfl, rfl⟩
  | track id' e =>
      by_cases h : id' = id
      · exact .inr (.inl ⟨e, congrArg (Change.track · e) h, if_pos h⟩)
      · refine .inl ⟨?_, ?_, if_neg h⟩ <;>
          cases e <;> simp [Change.overrides, Change.reportsStage, h]
  | cancel id' =>
      by_cases h : id' = id ∧ job.status.isOpen
      · exact .inr (.inr ⟨congrArg Change.cancel h.1, h.2, if_pos h⟩)
      · exact .inl ⟨rfl, rfl, if_neg h⟩

namespace Registry

def changed (m : Registry) : Float × Change → Registry
  | (time, .create id sourcePath outputDir) => m.put (.queued id sourcePath outputDir time)
  | (time, .track id e) => m.apply id time e
  | (time, .cancel id) => (m.cancel id time).1

def after (changes : List (Float × Change)) : Registry := changes.foldl changed []

variable {m : Registry} {id : String} {job : Job} {x : Float × Change}

theorem find?_changed_create (m : Registry) (time : Float) (id sourcePath outputDir : String) :
    (m.changed (time, .create id sourcePath outputDir)).find? id
      = some (.queued id sourcePath outputDir time) := by
  rw [changed, find?_put]
  exact if_pos rfl

theorem find?_changed (m : Registry) (hnew : x.2.created? ≠ some id) :
    (m.changed x).find? id = (m.find? id).map (·.changed id x) := by
  obtain ⟨time, change⟩ := x
  cases change with
  | create id' sourcePath outputDir =>
      have hne : id ≠ id' := fun h => hnew (congrArg some h.symm)
      rw [changed, find?_put, queued, if_neg hne]
      exact Option.map_id'.symm
  | track id' e =>
      change (m.modify id' (·.apply time e)).find? id = _
      rw [find?_modify]
      by_cases h : id' = id
      · subst h
        rw [if_pos rfl]
        simp only [Job.changed, if_true]
      · simp only [Job.changed, h, Ne.symm h, if_false, Option.map_id']
  | cancel id' =>
      change (m.cancel id' time).1.find? id = _
      by_cases h : id' = id
      · subst h
        cases hjob : m.find? id' with
        | none => rw [cancel_none hjob, hjob, Option.map_none]
        | some job =>
            cases hopen : job.status.isOpen with
            | false => rw [cancel_closed hjob hopen, hjob]; simp [Job.changed, hopen]
            | true => rw [find?_cancel_open hjob hopen]; simp [Job.changed, hopen]
      · rw [find?_cancel_of_ne (Ne.symm h)]
        simp only [Job.changed, h, false_and, if_false, Option.map_id']

theorem find?_foldl_changed {changes : List (Float × Change)} (m : Registry)
    (hnew : id ∉ created changes) :
    (changes.foldl changed m).find? id
      = (m.find? id).map fun job => changes.foldl (Job.changed id) job := by
  induction changes generalizing m with
  | nil => exact Option.map_id'.symm
  | cons x rest ih =>
      have hx : x.2.created? ≠ some id := fun h =>
        hnew (List.mem_filterMap.mpr ⟨x, List.mem_cons_self, h⟩)
      have hrest : id ∉ created rest := fun h =>
        hnew (((List.sublist_cons_self x rest).filterMap _).subset h)
      rw [List.foldl_cons, ih _ hrest, find?_changed m hx, Option.map_map]
      rfl

theorem mem_created_of_find?_after {changes : List (Float × Change)}
    (hjob : (after changes).find? id = some job) : id ∈ created changes := by
  by_contra hnone
  rw [after, find?_foldl_changed _ hnone] at hjob
  cases hjob

theorem since_append {before rest : List (Float × Change)} {x : Float × Change}
    (hbefore : id ∉ created before) (hx : x.2.created? = some id) :
    since id (before ++ x :: rest) = rest := by
  have hskip : ∀ y ∈ before, (y.2.created? != some id) = true := fun y hy =>
    bne_iff_ne.mpr fun h => hbefore (List.mem_filterMap.mpr ⟨y, hy, h⟩)
  rw [since, List.dropWhile_append_of_pos hskip, List.dropWhile_cons_of_neg (by simp [hx])]
  rfl

theorem exists_of_find?_after {changes : List (Float × Change)} (hnew : (created changes).Nodup)
    (hjob : (after changes).find? id = some job) :
    ∃ sourcePath outputDir time,
      job = (since id changes).foldl (Job.changed id) (.queued id sourcePath outputDir time) := by
  obtain ⟨⟨time, change⟩, hx, hid⟩ := List.mem_filterMap.mp (mem_created_of_find?_after hjob)
  obtain ⟨before, rest, rfl⟩ := List.append_of_mem hx
  cases change with
  | track | cancel => cases hid
  | create id' sourcePath outputDir =>
      cases hid
      -- no other change makes a job of this identifier, so what comes before it is not about the job
      have hids : (created before ++ id :: created rest).Nodup := by
        rwa [created_append] at hnew
      obtain ⟨-, hrest, hapart⟩ := List.nodup_append.mp hids
      have hbefore : id ∉ created before := fun h => hapart id h id List.mem_cons_self rfl
      have hlast : id ∉ created rest := (List.nodup_cons.mp hrest).1
      rw [after, List.foldl_append, List.foldl_cons, find?_foldl_changed _ hlast,
        find?_changed_create, Option.map_some, Option.some_inj] at hjob
      rw [since_append hbefore rfl]
      exact ⟨sourcePath, outputDir, time, hjob.symm⟩

end Registry

variable {id : String} {job : Job} {x : Float × Change}

theorem changed_of_ended (hended : job.status.isOpen = false) (hx : x.2.overrides id = false) :
    (job.changed id x).status = job.status ∧ (job.changed id x).completedAt = job.completedAt := by
  rcases changed_cases id job x with ⟨-, -, h⟩ | ⟨e, hid, h⟩ | ⟨-, hopen, -⟩
  · rw [h]
    exact ⟨rfl, rfl⟩
  · rw [h]
    cases e with
    | progressed u => exact ⟨rfl, rfl⟩
    | started | completed | failed => simp [hid, Change.overrides] at hx
  · rw [hended] at hopen
    cases hopen

/-- A job that has ended stays as it ended while nobody starts or ends it again. -/
theorem foldl_changed_of_ended {later : List (Float × Change)} (hended : job.status.isOpen = false)
    (hlater : ∀ x ∈ later, x.2.overrides id = false) :
    (later.foldl (changed id) job).status = job.status ∧
      (later.foldl (changed id) job).completedAt = job.completedAt := by
  induction later generalizing job with
  | nil => exact ⟨rfl, rfl⟩
  | cons x later ih =>
      obtain ⟨hx, hlater⟩ := List.forall_mem_cons.mp hlater
      obtain ⟨hstatus, hend⟩ := changed_of_ended hended hx
      obtain ⟨hstatus', hend'⟩ := ih (by rwa [hstatus]) hlater
      exact ⟨hstatus'.trans hstatus, hend'.trans hend⟩

/-- A job has not ended, or not at that time. -/
def EndedElse (time : Option Float) (job : Job) : Prop :=
  job.status.isOpen ∨ job.completedAt ≠ time

theorem EndedElse.changed {time : Option Float} (h : job.EndedElse time)
    (hx : some x.1 ≠ time) : (job.changed id x).EndedElse time := by
  rcases changed_cases id job x with ⟨-, -, hjob⟩ | ⟨e, -, hjob⟩ | ⟨-, -, hjob⟩
  · rwa [hjob]
  · rw [hjob]
    cases e with
    | started => exact .inl rfl
    | progressed u => exact h
    | completed | failed => exact .inr hx
  · rw [hjob]
    exact .inr hx

theorem endedElse_of_overrides {time : Option Float} (hover : x.2.overrides id)
    (hx : some x.1 ≠ time) : (job.changed id x).EndedElse time := by
  rcases changed_cases id job x with ⟨hnone, -, -⟩ | ⟨e, hid, hjob⟩ | ⟨hid, -, -⟩
  · rw [hnone] at hover
    cases hover
  · rw [hjob]
    cases e with
    | started => exact .inl rfl
    | progressed u =>
        rw [hid] at hover
        cases hover
    | completed | failed => exact .inr hx
  · rw [hid] at hover
    cases hover

theorem EndedElse.foldl {time : Option Float} {later : List (Float × Change)}
    (h : job.EndedElse time) (hlater : ∀ x ∈ later, some x.1 ≠ time) :
    (later.foldl (Job.changed id) job).EndedElse time := by
  induction later generalizing job with
  | nil => exact h
  | cons x later ih =>
      obtain ⟨hx, hlater⟩ := List.forall_mem_cons.mp hlater
      exact ih (h.changed hx) hlater

/-- Once it was started or ended again at another time, a job no longer stands as it had ended. -/
theorem foldl_changed_of_overrides {later : List (Float × Change)} {time : Option Float}
    (hover : ∃ x ∈ later, x.2.overrides id) (hlater : ∀ x ∈ later, some x.1 ≠ time) :
    (later.foldl (changed id) job).EndedElse time := by
  obtain ⟨x, hmem, hover⟩ := hover
  obtain ⟨front, back, rfl⟩ := List.append_of_mem hmem
  rw [List.foldl_append, List.foldl_cons]
  -- how the job stood before is of no account: overriding is not refused, and nothing undoes it
  refine (endedElse_of_overrides hover (hlater x hmem)).foldl fun y hy => hlater y ?_
  exact List.mem_append_right _ (List.mem_cons_of_mem _ hy)

theorem progress_changed (id : String) (job : Job) (x : Float × Change) :
    (job.changed id x).progress.stagesCompleted
        = job.progress.stagesCompleted + (if x.2.reportsStage id then 1 else 0) ∧
      (job.changed id x).progress.totalStages = job.progress.totalStages := by
  rcases changed_cases id job x with ⟨-, hnone, h⟩ | ⟨e, hid, h⟩ | ⟨hid, -, h⟩
  · rw [h, hnone]
    exact ⟨rfl, rfl⟩
  · rw [h, hid]
    cases e with
    | progressed u =>
        cases hstage : u.stage <;> simp [apply, Progress.apply, Change.reportsStage, hstage]
    | started | completed | failed => exact ⟨rfl, rfl⟩
  · rw [h, hid]
    exact ⟨rfl, rfl⟩

theorem progress_foldl_changed (changes : List (Float × Change)) (id : String) (job : Job) :
    (changes.foldl (changed id) job).progress.stagesCompleted
        = job.progress.stagesCompleted + changes.countP (·.2.reportsStage id) ∧
      (changes.foldl (changed id) job).progress.totalStages = job.progress.totalStages := by
  induction changes generalizing job with
  | nil => exact ⟨rfl, rfl⟩
  | cons x rest ih =>
      obtain ⟨hcount, htotal⟩ := progress_changed id job x
      obtain ⟨hcount', htotal'⟩ := ih (job.changed id x)
      rw [List.foldl_cons, hcount', hcount, List.countP_cons, htotal', htotal]
      exact ⟨by omega, rfl⟩

def shareOf (n : Nat) : Float :=
  Decimal.roundPlaces 2 (Float.ofNat n / Float.ofInt 4 * 100.0)

theorem shareOf_mem : ∀ n ≤ 4, 0.0 ≤ shareOf n ∧ shareOf n ≤ 100.0 := by
  decide +kernel

theorem percent_eq {p : Progress} (h : p.totalStages = 4) :
    p.percent = shareOf p.stagesCompleted := by
  rw [Progress.percent, h]
  rfl

def shownShare (job : Job) (now : Float) : Json :=
  ((Json.obj (job.fields now)).get "progress").get "progress_pct"

theorem shownShare_eq (job : Job) (now : Float) :
    job.shownShare now = .float job.progress.percent :=
  rfl

/-- How a job stands after changes, and what later ones make of that. -/
structure Stands (id : String) (changes later : List (Float × Change)) (job : Job) : Prop where
  kept : job.status.isOpen = false → (∀ x ∈ later, x.2.overrides id = false) →
    ∃ job', (Registry.after (changes ++ later)).find? id = some job' ∧
      job'.status = job.status ∧ job'.completedAt = job.completedAt
  lost : job.status.isOpen = false → (∃ x ∈ later, x.2.overrides id) →
    (∀ x ∈ later, some x.1 ≠ job.completedAt) →
    ∃ job', (Registry.after (changes ++ later)).find? id = some job' ∧
      ¬(job'.status = job.status ∧ job'.completedAt = job.completedAt)
  counted : job.progress.stagesCompleted = reports id changes ∧ job.progress.totalStages = 4
  share : ∀ now, job.shownShare now = .float (shareOf (reports id changes))
  inRange : reports id changes ≤ 4 →
    0.0 ≤ shareOf (reports id changes) ∧ shareOf (reports id changes) ≤ 100.0

/-- Whatever changes a registry goes through, with a new identifier for each new job, a job that has
ended stays as it ended except where it is started or ended again, and its share is within range as
long as no more than its stages are reported. -/
theorem stands_after {changes later : List (Float × Change)}
    (hnew : (created (changes ++ later)).Nodup)
    (hjob : (Registry.after changes).find? id = some job) : Stands id changes later job := by
  obtain ⟨hbefore, -, hapart⟩ := List.nodup_append.mp (created_append changes later ▸ hnew)
  have hlater : id ∉ created later := fun h =>
    hapart id (Registry.mem_created_of_find?_after hjob) id h rfl
  have hfound : (Registry.after (changes ++ later)).find? id
      = some (later.foldl (changed id) job) := by
    rw [Registry.after, List.foldl_append, Registry.find?_foldl_changed _ hlater]
    exact congrArg (Option.map _) hjob
  have hcounted : job.progress.stagesCompleted = reports id changes ∧
      job.progress.totalStages = 4 := by
    obtain ⟨sourcePath, outputDir, time, hmade⟩ := Registry.exists_of_find?_after hbefore hjob
    obtain ⟨hcount, htotal⟩ := progress_foldl_changed (since id changes) id
      (.queued id sourcePath outputDir time)
    rw [hmade, hcount, htotal]
    exact ⟨Nat.zero_add _, rfl⟩
  refine ⟨fun hended hnone => ?_, fun hended hover htimes => ?_, hcounted, fun now => ?_,
    shareOf_mem _⟩
  · exact ⟨_, hfound, foldl_changed_of_ended hended hnone⟩
  · refine ⟨_, hfound, ?_⟩
    rintro ⟨hstatus, hend⟩
    have helse : (later.foldl (changed id) job).EndedElse job.completedAt :=
      foldl_changed_of_overrides hover htimes
    rcases helse with hopen | hother
    · rw [hstatus, hended] at hopen
      cases hopen
    · exact hother hend
  · rw [shownShare_eq, percent_eq hcounted.2, hcounted.1]

theorem stands_after_cancelled :
    let changes := [(1.0, .create "j" "app.js" "out"), (2.0, .cancel "j")]
    let later := [(3.0, .track "j" (.progressed ⟨some "partition", some 4, none, none, none⟩)),
      (4.0, .cancel "j")]
    (created (changes ++ later)).Nodup ∧
      ∃ job, (Registry.after changes).find? "j" = some job ∧ job.status = .cancelled ∧
        Stands "j" changes later job := by
  intro changes later
  have hnew : (created (changes ++ later)).Nodup := by decide
  exact ⟨hnew, _, rfl, rfl, stands_after hnew rfl⟩

/-- A job that was cancelled is completed later, and a fifth of four stages is counted. -/
theorem completed_after_cancelled :
    let made := [(1.0, Change.create "j" "app.js" "out")]
    let cancelled := made ++ [(2.0, .cancel "j")]
    let completed := cancelled ++ [(3.0, .track "j" (.completed .null))]
    let stage := Change.track "j" (.progressed ⟨some "partition", none, none, none, none⟩)
    (created completed).Nodup ∧
      ((Registry.after cancelled).find? "j").map (fun job => (job.status, job.completedAt))
        = some (.cancelled, some 2.0) ∧
      ((Registry.after completed).find? "j").map (fun job => (job.status, job.completedAt))
        = some (.completed, some 3.0) ∧
      ∃ job, (Registry.after (made ++ List.replicate 5 (2.0, stage))).find? "j" = some job ∧
        job.shownShare 2.0 = .float (shareOf 5) ∧ 100.0 < shareOf 5 := by
  refine ⟨by decide, rfl, rfl, _, rfl, rfl, ?_⟩
  decide +kernel

end Dissect.Job
