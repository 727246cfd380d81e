import Dissect.Proofs.Runner.Stages
import Dissect.Proofs.Summary.Bounds
import Dissect.Service

namespace Dissect.Service

open Plan

/-- What an event lets happen to a job. -/
def noteOf? : Event TaskEffect → Option (String × Job.Event)
  | .answered (.track id e) _ => some (id, e)
  | _ => none

def notes (t : List (Event TaskEffect)) : List (String × Job.Event) := t.filterMap noteOf?

theorem notes_append (t u : List (Event TaskEffect)) : notes (t ++ u) = notes t ++ notes u :=
  List.filterMap_append

theorem notes_toList (e : Option (Event TaskEffect)) :
    notes e.toList = (e.bind noteOf?).toList := by
  cases e with
  | none => rfl
  | some e =>
      rw [Option.bind_some, Option.toList_some, notes, List.filterMap_cons]
      cases noteOf? e <;> rfl

def progressed (r : StageReport) : Job.Event := .progressed (updateOf r)

theorem notes_map_tracked (id : String) (t : List (Event Effect)) :
    notes (t.map (Event.lift (tracked id)))
      = (Runner.reports t).map fun r => (id, progressed r) := by
  induction t with
  | nil => rfl
  | cons e t ih =>
      have hcons : notes ((e :: t).map (Event.lift (tracked id)))
          = (noteOf? (e.lift (tracked id))).toList ++ notes (t.map (Event.lift (tracked id))) := by
        rw [List.map_cons, notes, List.filterMap_cons]
        cases noteOf? (e.lift (tracked id)) <;> rfl
      rw [hcons, ih]
      cases e with
      | begun x => cases x <;> rfl
      | answered x b => cases x <;> rfl

/-- What a job was told of when its task comes to an end. -/
inductive Ending (id : String) : List Job.Event → Except ServiceError Json → Prop
  | noJob : Ending id [] (.ok (noJob id))
  | completed {rs : List StageReport} (r : RunResult) (h : Runner.Told rs (.ok r)) :
      Ending id (.started :: (rs.map progressed ++ [.completed (.obj r.fields)]))
        (.ok (success r.fields))
  | failed {rs : List StageReport} (e : RunError) (h : Runner.Told rs (.error e))
      (he : e.isExpected) :
      Ending id (.started :: (rs.map progressed ++ [.failed e.message])) (.ok (refusal e.message))
  | died {rs : List StageReport} (e : RunError) (h : Runner.Told rs (.error e))
      (he : e.isExpected = false) :
      Ending id (.started :: rs.map progressed) (.error (.run e))

theorem notes_of_start (id : String) (found : Option Job) (b : Unit) (t : List (Event Effect))
    {u : List (Event TaskEffect)} {es : List Job.Event} (h : notes u = es.map (id, ·)) :
    notes (.begun (.findJob id) :: .answered (.findJob id) found :: .begun (.track id .started)
        :: .answered (.track id .started) b :: (t.map (Event.lift (tracked id)) ++ u))
      = (Job.Event.started :: ((Runner.reports t).map progressed ++ es)).map (id, ·) := by
  have hlater := notes_append (t.map (Event.lift (tracked id))) u
  rw [notes_map_tracked, h] at hlater
  rw [List.map_cons, List.map_append, List.map_map]
  exact congrArg ((id, Job.Event.started) :: ·) hlater

/-- The task of a job tells of this job alone, and of all that its run reports; it tells nothing
only of a job that it does not find. -/
theorem ending_of_runs_runJob {s : Service} {id : String} {t : List (Event TaskEffect)}
    {outcome : Except ServiceError Json} (h : Runs (s.runJob id) t outcome) :
    ∃ es, notes t = es.map (id, ·) ∧ Ending id es outcome ∧
      (es = [] → .answered (.findJob id) none ∈ t) := by
  rw [runJob] at h
  obtain ⟨found, t₁, rfl, hfound⟩ := runs_perform_bind h
  cases found with
  | none =>
      obtain ⟨rfl, rfl⟩ := hfound
      exact ⟨[], rfl, .noJob, fun _ => List.mem_cons_of_mem _ List.mem_cons_self⟩
  | some job =>
      obtain ⟨-, t₂, rfl, hstarted⟩ := runs_perform_bind hfound
      obtain ⟨r, u, v, rfl, hlifted, hend⟩ := runs_bind.mp hstarted
      obtain ⟨u', hrun, rfl⟩ := exists_of_runs_lift hlifted
      have htold := Runner.run_told s.runner _ _ hrun
      cases r with
      | ok r =>
          obtain ⟨-, w, rfl, rfl, rfl⟩ := runs_perform_bind hend
          exact ⟨_, notes_of_start id _ _ u' rfl, .completed r htold, nofun⟩
      | error e =>
          dsimp only at hend
          split at hend
          · rename_i he
            obtain ⟨-, w, rfl, rfl, rfl⟩ := runs_perform_bind hend
            exact ⟨_, notes_of_start id _ _ u' rfl, .failed e htold he, nofun⟩
          · rename_i he
            obtain ⟨rfl, rfl⟩ := hend
            refine ⟨_, @notes_of_start id _ _ u' [] [] rfl, ?_, nofun⟩
            rw [List.append_nil]
            exact .died e htold (Bool.eq_false_iff.mpr he)

/-- What a job can have been told of so far. -/
inductive Course : List Job.Event → Prop
  | waiting : Course []
  | running {rs : List StageReport} (h : rs.map StageReport.stage <+: Runner.stageNames) :
      Course (.started :: rs.map progressed)
  | completed {rs : List StageReport} (r : RunResult) (h : Runner.Told rs (.ok r)) :
      Course (.started :: (rs.map progressed ++ [.completed (.obj r.fields)]))
  | failed {rs : List StageReport} (message : String)
      (h : rs.map StageReport.stage <+: Runner.stageNames) :
      Course (.started :: (rs.map progressed ++ [.failed message]))

theorem Ending.course {id : String} {es : List Job.Event} {outcome : Except ServiceError Json}
    (h : Ending id es outcome) : Course es := by
  cases h with
  | noJob => exact .waiting
  | completed r h => exact .completed r h
  | failed e h => exact .failed e.message h
  | died e h => exact .running h

theorem Course.of_prefix_running {rs : List StageReport}
    (h : rs.map StageReport.stage <+: Runner.stageNames) {ds : List Job.Event}
    (hds : ds <+: rs.map progressed) : Course (.started :: ds) := by
  have htake : ds = (rs.take ds.length).map progressed := by
    rw [List.map_take]
    exact List.prefix_iff_eq_take.mp hds
  have hstages : (rs.take ds.length).map StageReport.stage <+: Runner.stageNames := by
    rw [List.map_take]
    exact (List.take_prefix _ _).trans h
  rw [htake]
  exact .running hstages

theorem Course.of_prefix {ds es : List Job.Event} (h : Course es) (hds : ds <+: es) :
    Course ds := by
  cases ds with
  | nil => exact .waiting
  | cons d ds =>
      cases h with
      | waiting => exact absurd (List.prefix_nil.mp hds) (List.cons_ne_nil d ds)
      | running h =>
          obtain ⟨rfl, hrest⟩ := List.cons_prefix_cons.mp hds
          exact .of_prefix_running h hrest
      | completed r h =>
          obtain ⟨rfl, hrest⟩ := List.cons_prefix_cons.mp hds
          rcases List.prefix_concat_iff.mp hrest with rfl | hrest
          · exact .completed r h
          · exact .of_prefix_running h.isPrefix hrest
      | failed message h =>
          obtain ⟨rfl, hrest⟩ := List.cons_prefix_cons.mp hds
          rcases List.prefix_concat_iff.mp hrest with rfl | hrest
          · exact .failed message h
          · exact .of_prefix_running h hrest

/-- Events that leave a job open. -/
def LeavesOpen (e : Job.Event) : Prop := e = .started ∨ ∃ u, e = .progressed u

theorem Course.leavesOpen {es : List Job.Event} {e : Job.Event} (h : Course (es ++ [e])) :
    ∀ d ∈ es, LeavesOpen d := by
  have hreports (rs : List StageReport) : ∀ d ∈ Job.Event.started :: rs.map progressed,
      LeavesOpen d := by
    intro d hd
    rcases List.mem_cons.mp hd with rfl | hd
    · exact .inl rfl
    · obtain ⟨r, -, rfl⟩ := List.mem_map.mp hd
      exact .inr ⟨_, rfl⟩
  generalize hall : es ++ [e] = all at h
  intro d hd
  cases h with
  | waiting => simp at hall
  | @running rs h =>
      refine hreports rs d ?_
      rw [← hall]
      exact List.mem_append_left _ hd
  | @completed rs r h =>
      have hsplit : es ++ [e] = (.started :: rs.map progressed) ++ [.completed (.obj r.fields)] :=
        hall
      exact hreports rs d ((List.append_inj' hsplit rfl).1 ▸ hd)
  | @failed rs message h =>
      have hsplit : es ++ [e] = (.started :: rs.map progressed) ++ [.failed message] := hall
      exact hreports rs d ((List.append_inj' hsplit rfl).1 ▸ hd)

theorem nonempty_effectAnswer {β : Type} : Effect β → Nonempty β
  | .call c => Summary.nonempty_answer c
  | .look => ⟨.empty⟩
  | .write .. => ⟨.ok ()⟩
  | .report _ => ⟨()⟩

theorem nonempty_taskAnswer {β : Type} : TaskEffect β → Nonempty β
  | .run e => nonempty_effectAnswer e
  | .findJob _ => ⟨none⟩
  | .track .. => ⟨()⟩

/-- At every moment, a task has told of its own job alone, and of it in a course. -/
theorem course_of_steps {s : Service} {id : String} {t : List (Event TaskEffect)}
    {task : Plan TaskEffect (Except ServiceError Json)} (h : Steps (s.runJob id) t task) :
    ∃ es, notes t = es.map (id, ·) ∧ Course es := by
  obtain ⟨u, outcome, hrun⟩ := h.exists_runs nonempty_taskAnswer
  obtain ⟨es, hnotes, hending, -⟩ := ending_of_runs_runJob hrun
  rw [notes_append] at hnotes
  obtain ⟨ds, ds', rfl, hds, -⟩ := List.append_eq_map_iff.mp hnotes
  exact ⟨ds, hds.symm, hending.course.of_prefix (List.prefix_append ds ds')⟩

end Dissect.Service
