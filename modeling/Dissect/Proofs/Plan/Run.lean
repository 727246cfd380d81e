import Dissect.Proofs.Plan.Step
import Mathlib.Data.List.Forall2

/-!
Whole runs of plans, read off their shape. A plan runs to a result with certain events if it can
take steps to that result that show them; the events of branches side by side are woven together.
-/

namespace Dissect.Plan

/-- A list is woven from several: each of them is spread over it in its own order. -/
inductive Woven {γ : Type*} : List (List γ) → List γ → Prop
  | nil {ts : List (List γ)} (h : ∀ t ∈ ts, t = []) : Woven ts []
  | cons {ts : List (List γ)} {i : Nat} {x : γ} {t w : List γ} (hi : ts[i]? = some (x :: t))
      (rest : Woven (ts.set i t) w) : Woven ts (x :: w)

namespace Woven

variable {γ : Type*} {ts : List (List γ)} {w : List γ}

theorem push {i : Nat} {x : γ} {t : List γ} (h : Woven ts w) (hi : ts[i]? = some t) :
    Woven (ts.set i (x :: t)) (x :: w) := by
  obtain ⟨hlt, rfl⟩ := List.getElem?_eq_some_iff.mp hi
  refine cons (i := i) (t := ts[i]) ?_ ?_
  · rw [List.getElem?_set_self hlt]
  · rwa [List.set_set, List.set_getElem_self]

theorem cons_nil (h : Woven ts w) : Woven ([] :: ts) w := by
  induction h with
  | nil h => exact nil (List.forall_mem_cons.mpr ⟨rfl, h⟩)
  | cons hi rest ih => exact cons (i := _ + 1) hi ih

theorem prepend (t : List γ) (h : Woven ts w) : Woven (t :: ts) (t ++ w) := by
  induction t with
  | nil => exact h.cons_nil
  | cons x t ih => exact cons (i := 0) rfl ih

theorem flatten (ts : List (List γ)) : Woven ts ts.flatten := by
  induction ts with
  | nil => exact nil (by simp)
  | cons t ts ih => exact ih.prepend t

theorem flatten_set_perm {i : Nat} {x : γ} {t : List γ} (hi : ts[i]? = some (x :: t)) :
    ts.flatten.Perm (x :: (ts.set i t).flatten) := by
  induction ts generalizing i with
  | nil => simp at hi
  | cons u ts ih =>
      cases i with
      | zero =>
          obtain rfl : u = x :: t := by simpa using hi
          exact .refl _
      | succ i => exact ((ih hi).append_left u).trans List.perm_middle

theorem perm (h : Woven ts w) : w.Perm ts.flatten := by
  induction h with
  | nil h => rw [List.flatten_eq_nil_iff.mpr h]
  | cons hi rest ih => exact (ih.cons _).trans (flatten_set_perm hi).symm

end Woven

theorem ofFn_update {γ : Type*} {n : Nat} (f : Fin n → γ) (i : Fin n) (x : γ) :
    List.ofFn (Function.update f i x) = (List.ofFn f).set i x := by
  refine List.ext_getElem (by simp) fun j hj hj' => ?_
  rw [List.getElem_ofFn, List.getElem_set, List.getElem_ofFn, Function.update_apply]
  simp only [Fin.ext_iff, eq_comm]

theorem ofFn_get_cast {γ δ : Type*} {l : List γ} {n : Nat} (h : n = l.length) (f : γ → δ) :
    List.ofFn (fun i : Fin n => f (l.get (i.cast h))) = l.map f := by
  subst h
  simp

variable {Act : Type → Type 1} {α β : Type}

/-- The plan runs to a result and shows events on the way. A plan whose time runs out shows those of
its first steps. -/
def Runs : {α : Type} → Plan Act α → List (Event Act) → α → Prop
  | _, .done a, t, r => t = [] ∧ r = a
  | _, .act x k, t, r => ∃ b u, t = .begun x :: .answered x b :: u ∧ Runs (k b) u r
  | _, .awaiting x k, t, r => ∃ b u, t = .answered x b :: u ∧ Runs (k b) u r
  | _, .all n branches k, t, r =>
      ∃ (ts : Fin n → List (Event Act)) (bs : Fin n → _) (w u : List (Event Act)),
        (∀ i, Runs (branches i) (ts i) (bs i)) ∧ Woven (List.ofFn ts) w ∧ t = w ++ u ∧
          Runs (k (List.ofFn bs)) u r
  | _, .within _ body k, t, r =>
      ∃ w u, t = w ++ u ∧ ((∃ b, Runs body w b ∧ Runs (k (some b)) u r) ∨
        ((∃ q, Steps body w q) ∧ Runs (k none) u r))

theorem runs_all_of_branch {n : Nat} {branches : Fin n → Plan Act β} {k : List β → Plan Act α}
    {i : Fin n} {q : Plan Act β} {e : Option (Event Act)} {t : List (Event Act)} {r : α}
    (hstep : ∀ u b, Runs q u b → Runs (branches i) (e.toList ++ u) b)
    (h : Runs (.all n (Function.update branches i q) k) t r) :
    Runs (.all n branches k) (e.toList ++ t) r := by
  obtain ⟨ts, bs, w, u, hbranches, hwoven, rfl, hrest⟩ := h
  refine ⟨Function.update ts i (e.toList ++ ts i), bs, e.toList ++ w, u, ?_, ?_,
    (List.append_assoc ..).symm, hrest⟩
  · intro j
    have hj := hbranches j
    rcases eq_or_ne j i with rfl | hne
    · rw [Function.update_self] at hj ⊢
      exact hstep _ _ hj
    · rwa [Function.update_of_ne hne] at hj ⊢
  · rw [ofFn_update]
    cases e with
    | none =>
        rw [Option.toList_none, List.nil_append, ← ofFn_update, Function.update_eq_self]
        exact hwoven
    | some x => exact hwoven.push (by simp)

theorem Step.runs {p q : Plan Act α} {e : Option (Event Act)} {t : List (Event Act)} {r : α}
    (h : Step p e q) (hq : Runs q t r) : Runs p (e.toList ++ t) r := by
  induction h generalizing t with
  | begin x k =>
      obtain ⟨b, u, rfl, hrest⟩ := hq
      exact ⟨b, u, rfl, hrest⟩
  | answer x k b => exact ⟨b, t, rfl, hq⟩
  | branch h ih => exact runs_all_of_branch (fun _ _ hrun => ih hrun) hq
  | join bs k =>
      refine ⟨fun _ => [], bs, [], t, fun i => ⟨rfl, rfl⟩, .nil ?_, rfl, hq⟩
      simp
  | inside h ih =>
      obtain ⟨w, u, rfl, hcases⟩ := hq
      refine ⟨_ ++ w, u, (List.append_assoc ..).symm, ?_⟩
      rcases hcases with ⟨b, hbody, hrest⟩ | ⟨⟨p, hsteps⟩, hrest⟩
      · exact .inl ⟨b, ih hbody, hrest⟩
      · exact .inr ⟨⟨p, .head h hsteps⟩, hrest⟩
  | inTime limit b k => exact ⟨[], t, rfl, .inl ⟨b, ⟨rfl, rfl⟩, hq⟩⟩
  | tooLate limit body k => exact ⟨[], t, rfl, .inr ⟨⟨body, .refl body⟩, hq⟩⟩

theorem Steps.woven {n : Nat} {ps qs : Fin n → Plan Act β} {ts : Fin n → List (Event Act)}
    {w : List (Event Act)} (k : List β → Plan Act α) (h : ∀ i, Steps (ps i) (ts i) (qs i))
    (hw : Woven (List.ofFn ts) w) : Steps (.all n ps k) w (.all n qs k) := by
  -- By induction on the weaving: the branch that shows the next event takes its steps up to there.
  generalize hl : List.ofFn ts = l at hw
  induction hw generalizing ps ts with
  | nil hnil =>
      subst hl
      refine .branches_silent k fun i => ?_
      have hi := h i
      rwa [hnil (ts i) (List.mem_ofFn.mpr ⟨i, rfl⟩)] at hi
  | @cons l i x t w hi rest ih =>
      subst hl
      obtain ⟨hlt, hx⟩ := List.getElem?_eq_some_iff.mp hi
      rw [List.length_ofFn] at hlt
      rw [List.getElem_ofFn] at hx
      have hbranch := h ⟨i, hlt⟩
      rw [hx] at hbranch
      obtain ⟨m, hfirst, hlater⟩ := hbranch.exists_of_cons
      have hnext : Steps (.all n (Function.update ps ⟨i, hlt⟩ m) k) w (.all n qs k) := by
        refine ih (fun j => ?_) (ofFn_update ts ⟨i, hlt⟩ t)
        rcases eq_or_ne j ⟨i, hlt⟩ with rfl | hne
        · simpa using hlater
        · simpa [hne] using h j
      exact hfirst.branch.trans hnext

theorem Runs.steps {p : Plan Act α} {t : List (Event Act)} {r : α} (h : Runs p t r) :
    Steps p t (.done r) := by
  induction p generalizing t with
  | done a =>
      obtain ⟨rfl, rfl⟩ := h
      exact .refl _
  | act x k ih =>
      obtain ⟨b, u, rfl, hrest⟩ := h
      exact .head (.begin x k) (.head (.answer x k b) (ih b hrest))
  | awaiting x k ih =>
      obtain ⟨b, u, rfl, hrest⟩ := h
      exact .head (.answer x k b) (ih b hrest)
  | all n branches k ihBranches ih =>
      obtain ⟨ts, bs, w, u, hbranches, hwoven, rfl, hrest⟩ := h
      have hsteps := Steps.woven k (fun i => ihBranches i (hbranches i)) hwoven
      exact hsteps.trans (.head (.join bs k) (ih _ hrest))
  | within limit body k ihBody ih =>
      obtain ⟨w, u, rfl, ⟨b, hbody, hrest⟩ | ⟨⟨q, hsteps⟩, hrest⟩⟩ := h
      · exact (ihBody hbody).inside.trans (.head (.inTime limit b k) (ih _ hrest))
      · exact hsteps.inside.trans (.head (.tooLate limit q k) (ih _ hrest))

theorem steps_done_iff {p : Plan Act α} {t : List (Event Act)} {r : α} :
    Steps p t (.done r) ↔ Runs p t r := by
  refine ⟨fun h => ?_, Runs.steps⟩
  generalize hq : Plan.done r = q at h
  induction h with
  | refl p =>
      subst hq
      exact ⟨rfl, rfl⟩
  | head first rest ih => exact first.runs (ih hq)

/-- What a run shows so far begins what a whole run shows. -/
theorem Steps.exists_runs (hanswer : ∀ {β : Type}, Act β → Nonempty β) {p q : Plan Act α}
    {t : List (Event Act)} (h : Steps p t q) : ∃ u r, Runs p (t ++ u) r := by
  obtain ⟨u, r, hrest⟩ := exists_steps_done hanswer q
  exact ⟨u, r, steps_done_iff.mp (h.trans hrest)⟩

theorem runs_pure {a r : α} {t : List (Event Act)} :
    Runs (pure a : Plan Act α) t r ↔ t = [] ∧ r = a :=
  Iff.rfl

theorem runs_bind {p : Plan Act α} {f : α → Plan Act β} {t : List (Event Act)} {r : β} :
    Runs (p >>= f) t r ↔ ∃ a u v, t = u ++ v ∧ Runs p u a ∧ Runs (f a) v r := by
  change Runs (p.bind f) t r ↔ _
  induction p generalizing t with
  | done a =>
      constructor
      · exact fun h => ⟨a, [], t, rfl, ⟨rfl, rfl⟩, h⟩
      · rintro ⟨_, _, v, rfl, ⟨rfl, rfl⟩, h⟩
        exact h
  | act x k ih =>
      constructor
      · rintro ⟨b, u, rfl, h⟩
        obtain ⟨a, u, v, rfl, hk, hf⟩ := (ih b).mp h
        exact ⟨a, _, v, rfl, ⟨b, u, rfl, hk⟩, hf⟩
      · rintro ⟨a, _, v, rfl, ⟨b, u, rfl, hk⟩, hf⟩
        exact ⟨b, u ++ v, rfl, (ih b).mpr ⟨a, u, v, rfl, hk, hf⟩⟩
  | awaiting x k ih =>
      constructor
      · rintro ⟨b, u, rfl, h⟩
        obtain ⟨a, u, v, rfl, hk, hf⟩ := (ih b).mp h
        exact ⟨a, _, v, rfl, ⟨b, u, rfl, hk⟩, hf⟩
      · rintro ⟨a, _, v, rfl, ⟨b, u, rfl, hk⟩, hf⟩
        exact ⟨b, u ++ v, rfl, (ih b).mpr ⟨a, u, v, rfl, hk, hf⟩⟩
  | all n branches k _ ih =>
      constructor
      · rintro ⟨ts, bs, w, u, hbranches, hwoven, rfl, h⟩
        obtain ⟨a, u, v, rfl, hk, hf⟩ := (ih _).mp h
        exact ⟨a, w ++ u, v, (List.append_assoc ..).symm,
          ⟨ts, bs, w, u, hbranches, hwoven, rfl, hk⟩, hf⟩
      · rintro ⟨a, _, v, rfl, ⟨ts, bs, w, u, hbranches, hwoven, rfl, hk⟩, hf⟩
        exact ⟨ts, bs, w, u ++ v, hbranches, hwoven, List.append_assoc ..,
          (ih _).mpr ⟨a, u, v, rfl, hk, hf⟩⟩
  | within limit body k _ ih =>
      constructor
      · rintro ⟨w, u, rfl, ⟨b, hbody, h⟩ | ⟨hsteps, h⟩⟩
        · obtain ⟨a, u, v, rfl, hk, hf⟩ := (ih _).mp h
          exact ⟨a, w ++ u, v, (List.append_assoc ..).symm,
            ⟨w, u, rfl, .inl ⟨b, hbody, hk⟩⟩, hf⟩
        · obtain ⟨a, u, v, rfl, hk, hf⟩ := (ih _).mp h
          exact ⟨a, w ++ u, v, (List.append_assoc ..).symm, ⟨w, u, rfl, .inr ⟨hsteps, hk⟩⟩, hf⟩
      · rintro ⟨a, _, v, rfl, ⟨w, u, rfl, ⟨b, hbody, hk⟩ | ⟨hsteps, hk⟩⟩, hf⟩
        · exact ⟨w, u ++ v, List.append_assoc .., .inl ⟨b, hbody,
            (ih _).mpr ⟨a, u, v, rfl, hk, hf⟩⟩⟩
        · exact ⟨w, u ++ v, List.append_assoc .., .inr ⟨hsteps,
            (ih _).mpr ⟨a, u, v, rfl, hk, hf⟩⟩⟩

theorem runs_bind_pure {p : Plan Act α} {g : α → β} {t : List (Event Act)} {r : β} :
    Runs (p >>= fun a => pure (g a)) t r ↔ ∃ a, Runs p t a ∧ r = g a := by
  constructor
  · intro h
    obtain ⟨a, u, _, rfl, hp, rfl, rfl⟩ := runs_bind.mp h
    rw [List.append_nil]
    exact ⟨a, hp, rfl⟩
  · rintro ⟨a, hp, rfl⟩
    exact runs_bind.mpr ⟨a, t, [], (List.append_nil t).symm, hp, rfl, rfl⟩

theorem runs_perform {x : Act α} {t : List (Event Act)} {r : α} :
    Runs (perform x) t r ↔ t = [.begun x, .answered x r] := by
  constructor
  · rintro ⟨b, u, rfl, rfl, rfl⟩
    rfl
  · rintro rfl
    exact ⟨r, [], rfl, rfl, rfl⟩

theorem runs_perform_bind {x : Act α} {k : α → Plan Act β} {t : List (Event Act)} {r : β}
    (h : Runs (perform x >>= k) t r) :
    ∃ a u, t = .begun x :: .answered x a :: u ∧ Runs (k a) u r := by
  obtain ⟨a, u, v, rfl, hx, hk⟩ := runs_bind.mp h
  obtain rfl := runs_perform.mp hx
  exact ⟨a, v, rfl, hk⟩

def RunsEach (ps : List (Plan Act α)) (runs : List (List (Event Act) × α)) : Prop :=
  List.Forall₂ (fun p run => Runs p run.1 run.2) ps runs

theorem runs_inOrderOnto {found as : List α} {ps : List (Plan Act α)} {t : List (Event Act)} :
    Runs (inOrderOnto found ps) t as ↔
      ∃ runs, RunsEach ps runs ∧ t = (runs.map Prod.fst).flatten ∧
        as = found.reverse ++ runs.map Prod.snd := by
  induction ps generalizing found t with
  | nil =>
      constructor
      · rintro ⟨rfl, rfl⟩
        exact ⟨[], .nil, rfl, (List.append_nil _).symm⟩
      · rintro ⟨_, ⟨⟩, rfl, rfl⟩
        exact ⟨rfl, List.append_nil _⟩
  | cons p ps ih =>
      rw [inOrderOnto]
      refine runs_bind.trans ⟨?_, ?_⟩
      · rintro ⟨a, u, v, rfl, hp, hrest⟩
        obtain ⟨runs, hruns, rfl, rfl⟩ := ih.mp hrest
        exact ⟨(u, a) :: runs, .cons hp hruns, rfl, by simp⟩
      · rintro ⟨_, _ | ⟨hp, hruns⟩, rfl, rfl⟩
        exact ⟨_, _, _, rfl, hp, ih.mpr ⟨_, hruns, rfl, by simp⟩⟩

theorem runs_inOrder {ps : List (Plan Act α)} {t : List (Event Act)} {as : List α} :
    Runs (inOrder ps) t as ↔
      ∃ runs, RunsEach ps runs ∧ t = (runs.map Prod.fst).flatten ∧ as = runs.map Prod.snd :=
  runs_inOrderOnto

theorem runs_together {ps : List (Plan Act α)} {t : List (Event Act)} {as : List α} :
    Runs (together ps) t as ↔
      ∃ runs, RunsEach ps runs ∧ Woven (runs.map Prod.fst) t ∧ as = runs.map Prod.snd := by
  constructor
  · rintro ⟨ts, bs, w, u, hbranches, hwoven, rfl, rfl, rfl⟩
    refine ⟨List.ofFn fun i => (ts i, bs i), ?_, ?_, ?_⟩
    · refine List.forall₂_iff_get.mpr ⟨by simp, fun i hi hi' => ?_⟩
      simpa using hbranches ⟨i, by simpa using hi⟩
    · rw [List.append_nil, List.map_ofFn]
      exact hwoven
    · rw [List.map_ofFn]
      rfl
  · rintro ⟨runs, hruns, hwoven, rfl⟩
    obtain ⟨hlength, hget⟩ := List.forall₂_iff_get.mp hruns
    have hsize : ps.toArray.size = runs.length := by rw [List.size_toArray, hlength]
    refine ⟨fun i => (runs.get (i.cast hsize)).1, fun i => (runs.get (i.cast hsize)).2, t, [], ?_,
      ?_, (List.append_nil t).symm, rfl, (ofFn_get_cast hsize Prod.snd).symm⟩
    · intro i
      simpa using hget i.1 (by simpa using i.2) (i.cast hsize).2
    · rw [ofFn_get_cast hsize Prod.fst]
      exact hwoven

theorem exists_of_runs_fanOut {concurrent : Bool} {ps : List (Plan Act α)} {t : List (Event Act)}
    {as : List α} (h : Runs (fanOut concurrent ps) t as) :
    ∃ runs, RunsEach ps runs ∧ Woven (runs.map Prod.fst) t ∧ as = runs.map Prod.snd := by
  cases concurrent with
  | true => exact runs_together.mp h
  | false =>
      obtain ⟨runs, hruns, rfl, rfl⟩ := runs_inOrder.mp h
      exact ⟨runs, hruns, .flatten _, rfl⟩

/-- Plans that may run side by side may also run one after another. -/
theorem RunsEach.fanOut {ps : List (Plan Act α)} {runs : List (List (Event Act) × α)}
    (h : RunsEach ps runs) (concurrent : Bool) :
    Runs (fanOut concurrent ps) (runs.map Prod.fst).flatten (runs.map Prod.snd) := by
  cases concurrent with
  | true => exact runs_together.mpr ⟨runs, h, .flatten _, rfl⟩
  | false => exact runs_inOrder.mpr ⟨runs, h, rfl, rfl⟩

end Dissect.Plan
