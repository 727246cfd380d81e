import Dissect.Proofs.Runner.Completed
import Dissect.Proofs.Session.Await
import Dissect.Proofs.Session.Fates

namespace Dissect

open Plan (Event Runs Along runs_bind runs_perform_bind)

/-- What files go through with an event of a task. -/
inductive FileTree.Undergoes (files : FileTree) : Option (Event TaskEffect) → FileTree → Prop
  | silent : Undergoes files none files
  | begun {β : Type} (x : TaskEffect β) : Undergoes files (some (.begun x)) files
  | run {β : Type} (x : Effect β) (b : β) {files' : FileTree}
      (h : files.Reacts (some (.answered x b)) files') :
      Undergoes files (some (.answered (.run x) b)) files'
  | findJob (id : String) (b : Option Job) :
      Undergoes files (some (.answered (.findJob id) b)) files
  | track (id : String) (e : Job.Event) (b : Unit) :
      Undergoes files (some (.answered (.track id e) b)) files

def Service.isAnswer : Option (Event TaskEffect) → Bool
  | some (.answered (.run _) _) => true
  | _ => false

namespace FileTree.Undergoes

variable {files files' : FileTree}

theorem eq_of_not_isAnswer {e : Option (Event TaskEffect)} (h : files.Undergoes e files')
    (he : Service.isAnswer e = false) : files' = files := by
  cases h with
  | run => cases he
  | silent | begun | findJob | track => rfl

theorem of_run {β : Type} {x : Effect β} {b : β}
    (h : files.Undergoes (some (.answered (.run x) b)) files') :
    files.Reacts (some (.answered x b)) files' := by
  cases h
  assumption

theorem of_tracked (id : String) {β : Type} {x : Effect β} {b : β}
    (h : files.Undergoes (some (.answered (Service.tracked id x) b)) files') :
    files.Reacts (some (.answered x b)) files' := by
  cases x with
  | report r =>
      obtain rfl := h.eq_of_not_isAnswer rfl
      exact .report r b
  | call | look | write => exact of_run h

theorem along {f : {β : Type} → Effect β → TaskEffect β}
    (hf : ∀ {β : Type} {x : Effect β} {b : β} {files files' : FileTree},
      files.Undergoes (some (.answered (f x) b)) files' →
        files.Reacts (some (.answered x b)) files')
    {t : List (Event Effect)} (h : Along Undergoes files (t.map (Event.lift f)) files') :
    Along FileTree.Reacts files t files' := by
  induction t generalizing files with
  | nil =>
      cases h
      exact .nil _
  | cons e t ih =>
      cases h with
      | cons react rest =>
          cases e with
          | begun x =>
              obtain rfl := react.eq_of_not_isAnswer rfl
              exact .cons (.begun x) (ih rest)
          | answered x b => exact .cons (hf react) (ih rest)

theorem eq_of_along {t : List (Event TaskEffect)} (h : Along Undergoes files t files')
    (hnone : ∀ e ∈ t, Service.isAnswer (some e) = false) : files' = files := by
  induction h with
  | nil => rfl
  | cons react rest ih =>
      obtain ⟨he, hnone⟩ := List.forall_mem_cons.mp hnone
      rw [ih hnone, react.eq_of_not_isAnswer he]

end FileTree.Undergoes

theorem FileTree.Reacts.eq_of_begun {files files' : FileTree} {β : Type} {x : Effect β}
    (h : files.Reacts (some (.begun x)) files') : files' = files := by
  cases h
  rfl

theorem Surroundings.fits_files {σ : Type} (calls : Plan.Handler Call σ) :
    (tasks calls).Fits fun w e w' => w.files.Undergoes e w'.files where
  silent w := .silent
  begun x w := .begun x
  answered := by
    intro β x b w w' h
    cases x with
    | run x => exact .run x b ((fits_effects calls).answered h)
    | findJob id =>
        cases h
        exact .findJob id _
    | track id e =>
        cases h
        exact .track id e _
  unanswered := by
    intro β x w w' h
    cases x with
    | run x =>
        rw [((fits_effects calls).unanswered h).eq_of_begun]
        exact .begun _
    | findJob id => cases h
    | track id e => cases h

/-- What surroundings go through with an event of a task: their jobs and their files. -/
def Surroundings.Undergoes {σ : Type} (w : Surroundings σ) (e : Option (Event TaskEffect))
    (w' : Surroundings σ) : Prop :=
  w.Reacts e w' ∧ w.files.Undergoes e w'.files

namespace Surroundings

variable {σ : Type} {w w' : Surroundings σ}

theorem fits_undergoes (calls : Plan.Handler Call σ) : (tasks calls).Fits Undergoes :=
  (fits_tasks calls).and (fits_files calls)

theorem Reacts.eq_of_silent (h : w.Reacts none w') : w' = w := by
  cases h
  rfl

theorem files_of_along {t : List (Event TaskEffect)} (h : Along Undergoes w t w') :
    Along FileTree.Undergoes w.files t w'.files :=
  h.map Surroundings.files And.right

theorem Reacts.found_eq {id : String} {found : Option Job}
    (h : w.Reacts (some (.answered (.findJob id) found)) w') : found = w.jobs.find? id := by
  generalize he : some (Event.answered (TaskEffect.findJob id) found) = e at h
  have hfound := congrArg (Option.bind · (Session.lookupOf? id)) he
  rw [Option.bind_some, Session.lookupOf?, if_pos rfl] at hfound
  cases h with
  | findJob id' =>
      cases he
      rfl
  | silent | begun | run | track => cases hfound

theorem Reacts.outputDir_eq {e : Option (Event TaskEffect)} (h : w.Reacts e w') (id : String) :
    (w'.jobs.find? id).map (·.outputDir) = (w.jobs.find? id).map (·.outputDir) := by
  cases hnote : e.bind Service.noteOf? with
  | none => rw [Session.jobs_of_reacts_none h hnote]
  | some note =>
      rw [Session.jobs_of_reacts_some h hnote, Job.Registry.apply, Job.Registry.find?_modify]
      split
      · rename_i heq
        subst heq
        rw [Option.map_map]
        congr 1
        funext job
        cases note.2 <;> rfl
      · rfl

theorem outputDir_of_along {t : List (Event TaskEffect)} (h : Along Undergoes w t w')
    (id : String) :
    (w'.jobs.find? id).map (·.outputDir) = (w.jobs.find? id).map (·.outputDir) := by
  induction h with
  | nil => rfl
  | cons react rest ih => rw [ih, react.1.outputDir_eq id]

end Surroundings

namespace Service

theorem success_ne_refusal (fields : List (String × Json)) (reason : String) :
    success fields ≠ refusal reason := by
  intro h
  rw [success, refusal, Json.obj.injEq, List.cons.injEq, Prod.mk.injEq] at h
  cases h.1.2

variable {s : Service} {fields : List (String × Json)}

theorem exists_of_runs_dissect {sourcePath : String} {runName : Option String}
    {t : List (Event Effect)}
    (h : Runs (s.dissect sourcePath runName) t (.ok (success fields))) :
    ∃ found u r, t = .begun .look :: .answered .look found :: u ∧
      Runs (s.runner.run (.ofText sourcePath)
        (runDirectory s.outputRoot sourcePath runName)).run u (.ok r) := by
  refine (runs_perform_bind h).imp fun found => ?_
  generalize complaint found sourcePath = complaint
  rintro ⟨u, rfl, hrest⟩
  match complaint with
  | .error _ => cases hrest.2
  | .ok (some _) => exact absurd (Except.ok.inj hrest.2) (success_ne_refusal _ _)
  | .ok none =>
      obtain ⟨result, u, v, rfl, hrun, hend⟩ := runs_bind.mp hrest
      cases result with
      | ok r =>
          obtain ⟨rfl, -⟩ := hend
          exact ⟨u, r, by rw [List.append_nil], hrun⟩
      | error e =>
          dsimp only at hend
          split at hend
          · exact absurd (Except.ok.inj hend.2) (success_ne_refusal _ _)
          · cases hend.2

theorem exists_of_runs_runJob {id : String} {t : List (Event TaskEffect)}
    (h : Runs (s.runJob id) t (.ok (success fields))) :
    ∃ job b b' u r, t = .begun (.findJob id) :: .answered (.findJob id) (some job)
        :: .begun (.track id .started) :: .answered (.track id .started) b
        :: (u.map (Event.lift (tracked id)) ++ [.begun (.track id (.completed (.obj r.fields))),
          .answered (.track id (.completed (.obj r.fields))) b']) ∧
      Runs (s.runner.run (.ofText job.sourcePath) (.ofText job.outputDir)).run u (.ok r) := by
  rw [runJob] at h
  obtain ⟨found, t₁, rfl, hfound⟩ := runs_perform_bind h
  cases found with
  | none => exact absurd (Except.ok.inj hfound.2) (success_ne_refusal _ _)
  | some job =>
      obtain ⟨b, t₂, rfl, hstarted⟩ := runs_perform_bind hfound
      obtain ⟨r, u, v, rfl, hlifted, hend⟩ := runs_bind.mp hstarted
      obtain ⟨u', hrun, rfl⟩ := Plan.exists_of_runs_lift hlifted
      cases r with
      | ok r =>
          obtain ⟨b', w, rfl, rfl, -⟩ := runs_perform_bind hend
          exact ⟨job, b, b', u', r, rfl, hrun⟩
      | error e =>
          dsimp only at hend
          split at hend
          · obtain ⟨-, w, rfl, -, hanswer⟩ := runs_perform_bind hend
            exact absurd (Except.ok.inj hanswer) (success_ne_refusal _ _)
          · cases hend.2

variable {files files' : FileTree}

theorem fills_of_runs_dissect {sourcePath : String} {runName : Option String}
    {t : List (Event Effect)}
    (h : Runs (s.dissect sourcePath runName) t (.ok (success fields)))
    (halong : Along FileTree.Reacts files t files') :
    ∃ content part artifacts, files.read (.ofText sourcePath) = .ok content ∧
      Partition.split s.runner.parse s.runner.strict content (Path.ofText sourcePath).name
        = .ok part ∧
      Runner.Fills s.runner ⟨runDirectory s.outputRoot sourcePath runName, s.runner.stubs⟩ part
        (Path.ofText sourcePath).name files files' artifacts := by
  obtain ⟨found, u, r, rfl, hrun⟩ := exists_of_runs_dissect h
  cases halong with
  | cons begun halong =>
      obtain rfl := begun.eq_of_begun
      cases halong with
      | cons answered halong =>
          obtain ⟨-, rfl⟩ := answered.of_look
          exact Runner.fills_of_runs_run hrun halong

theorem fills_of_runs_runJob {σ : Type} {w w' : Surroundings σ} {id : String}
    {t : List (Event TaskEffect)} (h : Runs (s.runJob id) t (.ok (success fields)))
    (halong : Along Surroundings.Undergoes w t w') {job : Job}
    (hjob : w.jobs.find? id = some job) :
    ∃ content part artifacts, w.files.read (.ofText job.sourcePath) = .ok content ∧
      Partition.split s.runner.parse s.runner.strict content (Path.ofText job.sourcePath).name
        = .ok part ∧
      Runner.Fills s.runner ⟨.ofText job.outputDir, s.runner.stubs⟩ part
        (Path.ofText job.sourcePath).name w.files w'.files artifacts := by
  obtain ⟨job', b, b', u, r, rfl, hrun⟩ := exists_of_runs_runJob h
  have hfound : some job' = w.jobs.find? id := by
    cases halong with
    | cons begun halong =>
        cases halong with
        | cons answered _ =>
            rw [answered.1.found_eq, Session.jobs_of_reacts_none begun.1 rfl]
  obtain rfl := Option.some.inj (hfound.trans hjob)
  -- only the events of the run concern files
  have hfiles := Surroundings.files_of_along halong
  obtain ⟨files, hfront, hfiles⟩ := Along.append (t := [_, _, _, _]) hfiles
  obtain ⟨files', hmiddle, hback⟩ := Along.append hfiles
  have hbefore := FileTree.Undergoes.eq_of_along hfront (by simp [isAnswer])
  have hafter := FileTree.Undergoes.eq_of_along hback (by simp [isAnswer])
  have hreacts := FileTree.Undergoes.along (FileTree.Undergoes.of_tracked id) hmiddle
  rw [hbefore] at hreacts
  rw [hafter]
  exact Runner.fills_of_runs_run hrun hreacts

end Service

end Dissect
