import Dissect.Job.Registry
import Mathlib.Data.List.Induction

namespace Dissect.Job

namespace Registry

theorem find?_cons (k : String) (job : Job) (m : Registry) (id : String) :
    find? ((k, job) :: m) id = if id = k then some job else m.find? id := by
  rw [find?, List.lookup_cons]
  by_cases h : id = k
  · rw [if_pos h, h, BEq.rfl]
  · rw [if_neg h, beq_false_of_ne h]
    rfl

theorem modify_cons (id : String) (f : Job → Job) (k : String) (job : Job) (m : Registry) :
    modify id f ((k, job) :: m) = (k, if k = id then f job else job) :: m.modify id f := by
  rw [modify, List.map_cons, modify]
  by_cases h : k = id
  · simp only [h, BEq.rfl, if_true]
  · simp only [beq_false_of_ne h, h, Bool.false_eq_true, if_false]

theorem find?_put (m : Registry) (job : Job) (id : String) :
    (m.put job).find? id = if id = job.id then some job else m.find? id := by
  induction m with
  | nil => rw [put, find?_cons]
  | cons entry m ih =>
      obtain ⟨k, old⟩ := entry
      rw [put]
      split
      · rename_i h
        obtain rfl := beq_iff_eq.mp h
        rw [find?_cons, find?_cons]
        split <;> rfl
      · rename_i h
        rw [find?_cons, find?_cons, ih]
        by_cases hid : id = k
        · have hne : k ≠ job.id := fun heq => h (beq_iff_eq.mpr heq)
          rw [if_pos hid, if_pos hid, hid, if_neg hne]
        · rw [if_neg hid, if_neg hid]

theorem find?_modify (m : Registry) (id : String) (f : Job → Job) (id' : String) :
    (m.modify id f).find? id' = if id' = id then (m.find? id).map f else m.find? id' := by
  induction m with
  | nil =>
      change none = _
      split <;> rfl
  | cons entry m ih =>
      obtain ⟨k, job⟩ := entry
      rw [modify_cons, find?_cons, find?_cons, find?_cons, ih]
      by_cases hid : id' = id
      · subst hid
        by_cases hk : id' = k
        · simp [hk]
        · simp [hk]
      · by_cases hk : id' = k
        · subst hk
          simp [hid]
        · simp [hk, hid]

theorem find?_modify_self {m : Registry} {id : String} {job : Job} (h : m.find? id = some job)
    (f : Job → Job) : (m.modify id f).find? id = some (f job) := by
  rw [find?_modify, if_pos rfl, h, Option.map_some]

theorem find?_modify_of_ne {m : Registry} {id id' : String} (h : id' ≠ id) (f : Job → Job) :
    (m.modify id f).find? id' = m.find? id' := by
  rw [find?_modify, if_neg h]

theorem find?_put_modify (m : Registry) (job : Job) (f : Job → Job) (id : String) :
    ((m.put job).modify job.id f).find? id = if id = job.id then some (f job) else m.find? id := by
  rw [find?_modify, find?_put, if_pos rfl, find?_put, Option.map_some]
  split <;> rfl

/-- A job is cancelled exactly if it has not ended; else nothing changes. -/
theorem cancel_iff (m : Registry) (id : String) (now : Float) :
    ((m.cancel id now).2 = true ↔ ∃ job, m.find? id = some job ∧ job.status.isOpen) ∧
      ((m.cancel id now).2 = false → (m.cancel id now).1 = m) := by
  rw [cancel]
  cases m.find? id with
  | none => simp
  | some job => cases hopen : job.status.isOpen <;> simp [hopen]

theorem find?_cancel_open {m : Registry} {id : String} {job : Job} (h : m.find? id = some job)
    (hopen : job.status.isOpen) (now : Float) :
    (m.cancel id now).1.find? id = some (job.cancel now) := by
  rw [cancel, h]
  simp only [hopen, if_true]
  exact find?_modify_self h _

theorem cancel_closed {m : Registry} {id : String} {job : Job} (h : m.find? id = some job)
    (hclosed : job.status.isOpen = false) (now : Float) : (m.cancel id now).1 = m := by
  rw [cancel, h]
  simp only [hclosed, Bool.false_eq_true, if_false]

theorem cancel_none {m : Registry} {id : String} (h : m.find? id = none) (now : Float) :
    (m.cancel id now).1 = m := by
  rw [cancel, h]

theorem find?_cancel_of_ne {m : Registry} {id id' : String} (h : id' ≠ id) (now : Float) :
    (m.cancel id now).1.find? id' = m.find? id' := by
  cases hjob : m.find? id with
  | none => rw [cancel_none hjob]
  | some job =>
      cases hopen : job.status.isOpen with
      | false => rw [cancel_closed hjob hopen]
      | true =>
          rw [cancel, hjob]
          simp only [hopen, if_true]
          exact find?_modify_of_ne h _

end Registry

def replay (job : Job) (story : List (Float × Event)) : Job :=
  story.foldl (fun j x => j.apply x.1 x.2) job

@[simp] theorem replay_nil (job : Job) : job.replay [] = job := rfl

theorem replay_cons (job : Job) (x : Float × Event) (story : List (Float × Event)) :
    job.replay (x :: story) = (job.apply x.1 x.2).replay story := rfl

theorem replay_append (job : Job) (a b : List (Float × Event)) :
    job.replay (a ++ b) = (job.replay a).replay b :=
  List.foldl_append

theorem replay_concat (job : Job) (story : List (Float × Event)) (x : Float × Event) :
    job.replay (story ++ [x]) = (job.replay story).apply x.1 x.2 := by
  rw [replay_append]
  rfl

theorem replay_createdAt (job : Job) (story : List (Float × Event)) :
    (job.replay story).createdAt = job.createdAt := by
  induction story generalizing job with
  | nil => rfl
  | cons x story ih =>
      rw [replay_cons, ih]
      cases x.2 <;> rfl

theorem mem_of_startedAt_replay {job : Job} {story : List (Float × Event)}
    (hjob : job.startedAt = none) {time : Float} (h : (job.replay story).startedAt = some time) :
    time ∈ story.map Prod.fst := by
  induction story using List.reverseRecOn with
  | nil =>
      rw [replay_nil, hjob] at h
      cases h
  | append_singleton story x ih =>
      rw [replay_concat] at h
      rw [List.map_append]
      obtain ⟨τ, e⟩ := x
      cases e with
      | started =>
          cases h
          exact List.mem_append_right _ List.mem_cons_self
      | progressed u | completed result | failed error => exact List.mem_append_left _ (ih h)

theorem stagesCompleted_le_apply (job : Job) (time : Float) (e : Event) :
    job.progress.stagesCompleted ≤ (job.apply time e).progress.stagesCompleted := by
  cases e with
  | progressed u =>
      simp only [apply, Progress.apply]
      split <;> omega
  | started | completed | failed => exact Nat.le_refl _

theorem replay_of_progressed {story : List (Float × Event)} {us : List Update}
    (h : story.map Prod.snd = us.map .progressed) (job : Job) :
    job.replay story = { job with progress := us.foldl Progress.apply job.progress } := by
  induction us generalizing job story with
  | nil =>
      rw [List.map_nil, List.map_eq_nil_iff] at h
      subst h
      rfl
  | cons u us ih =>
      obtain ⟨⟨time, e⟩, story, rfl, he, hrest⟩ := List.map_eq_cons_iff.mp h
      cases he
      rw [replay_cons, ih hrest]
      rfl

theorem stagesCompleted_foldl {us : List Update} (h : ∀ u ∈ us, u.stage.isSome) (p : Progress) :
    (us.foldl Progress.apply p).stagesCompleted = p.stagesCompleted + us.length := by
  induction us generalizing p with
  | nil => rfl
  | cons u us ih =>
      obtain ⟨hu, hus⟩ := List.forall_mem_cons.mp h
      rw [List.foldl_cons, ih hus, Progress.apply, List.length_cons]
      simp only [hu, if_true]
      omega

theorem stage_foldl {us : List Update} (h : ∀ u ∈ us, u.stage.isSome) (p : Progress) :
    (us.foldl Progress.apply p).stage = (us.getLast?.bind (·.stage)).getD p.stage := by
  induction us using List.reverseRecOn with
  | nil => rfl
  | append_singleton us u ih =>
      obtain ⟨name, hname⟩ := Option.isSome_iff_exists.mp (h u (by simp))
      rw [List.foldl_append, List.getLast?_append]
      simp [Progress.apply, hname]

end Dissect.Job
