import Dissect.Proofs.Analysis.Stages
import Dissect.Proofs.Summary.Agreement

namespace Dissect.Analysis

open Plan Summary
open Text (Utf8.Fault)

def spacing (setup : Setup) (count : Nat) : List Float :=
  if setup.concurrent then [] else List.replicate count setup.interCallDelay

def gaps (setup : Setup) (count : Nat) : List (Event Call) :=
  ((spacing setup count).map gap).flatten

variable {setup : Setup} {s : Subject} {c : Category} {model : String → Except CallError String}

theorem exists_settles_of_summary {b : Budget} {prompt text : String}
    {p : Bool → Plan Call String} {k : Except CallError Summary → Plan Call String}
    (hp : ∀ concurrent, p concurrent = ofText concurrent b prompt text 0 >>= k)
    (hk : ∀ result, ∃ a, k result = pure a) :
    ∃ u a, paused u = [] ∧ ∀ concurrent, Settles (answerBy model) (p concurrent) u a := by
  obtain ⟨u, result, hpaused, hsettles⟩ := exists_settles_ofText model b prompt text 0
  obtain ⟨a, ha⟩ := hk result
  refine ⟨u, a, hpaused, fun concurrent => ?_⟩
  rw [hp concurrent]
  exact (hsettles concurrent).bind_pure ha

theorem exists_settles_promptFor (model : String → Except CallError String) (setup : Setup)
    (s : Subject) (c : Category) (samples : String) :
    ∃ u prompt, paused u = [] ∧ ∀ concurrent, Settles (answerBy model)
      (promptFor { setup with concurrent } s c samples) u prompt := by
  by_cases hkept : samples = "" ∨
      (tokenCount (promptWith s c samples) : Int) ≤ setup.budget.contextLimit
  · refine ⟨[], promptWith s c samples, rfl, fun concurrent => ?_⟩
    have heq : promptFor { setup with concurrent } s c samples = pure (promptWith s c samples) :=
      promptFor_of_kept hkept
    rw [heq]
    exact settles_pure _
  · exact exists_settles_of_summary (fun _ => promptFor_of_not_kept hkept) fun _ => ⟨_, rfl⟩

theorem exists_settles_askCategory (model : String → Except CallError String) {samples : String}
    (hsamples : samplesFor s c = .ok samples) :
    ∃ u r, Waits setup.maxRetries.toNat 1 (paused u) ∧
      ∀ concurrent, Settles (answerBy model) (askCategory { setup with concurrent } s c) u
        (.ok r) := by
  obtain ⟨u, prompt, hpaused, hprompt⟩ := exists_settles_promptFor model setup s c samples
  obtain ⟨v, outcome, hwaits, hask⟩ := exists_settles_askUpTo model prompt c.name
    (standInFor setup s c) setup.maxRetries.toNat
  refine ⟨u ++ v, titled setup c outcome, ?_, fun concurrent => ?_⟩
  · rwa [paused_append, hpaused, List.nil_append]
  · rw [askCategory, hsamples]
    exact (hprompt concurrent).bind (hask.bind_pure rfl)

theorem exists_settleEach_askCategory (model : String → Except CallError String) (setup : Setup)
    {categories : List Category} (hreadable : s.Readable categories) :
    ∃ runs : List (List (Event Call) × Except Utf8.Fault Result), (∀ run ∈ runs,
        Waits setup.maxRetries.toNat 1 (paused run.1)) ∧
      ∀ concurrent, SettleEach (answerBy model)
        (categories.map (askCategory { setup with concurrent } s)) runs := by
  have heach : ∀ c ∈ categories, ∃ u r,
      Waits setup.maxRetries.toNat 1 (paused u) ∧
      ∀ concurrent, Settles (answerBy model) (askCategory { setup with concurrent } s c) u r := by
    intro c hc
    obtain ⟨samples, hsamples⟩ := exists_samplesFor_iff.mpr (hreadable c hc)
    obtain ⟨u, r, hwaits, hsettles⟩ := exists_settles_askCategory model hsamples
    exact ⟨u, .ok r, hwaits, hsettles⟩
  exact exists_settleEach heach

theorem paused_gaps (setup : Setup) (count : Nat) :
    paused (gaps setup count) = spacing setup count := by
  rw [gaps]
  induction spacing setup count with
  | nil => rfl
  | cons d delays ih =>
      rw [List.map_cons, List.flatten_cons, paused_append, paused_gap, ih, List.singleton_append]

theorem sent_gaps (setup : Setup) (count : Nat) : sent (gaps setup count) = [] := by
  rw [gaps]
  induction spacing setup count with
  | nil => rfl
  | cons d delays ih =>
      rw [List.map_cons, List.flatten_cons, sent_append, sent_gap, ih, List.nil_append]

theorem Schedule.perm {ts : List (List (Event Call))} {t : List (Event Call)}
    (h : Schedule setup ts t) : t.Perm (ts.flatten ++ gaps setup ts.length) := by
  rw [Schedule] at h
  cases hmode : setup.concurrent with
  | true =>
      rw [hmode, if_pos rfl] at h
      rw [gaps, spacing, hmode, if_pos rfl]
      simpa using h.perm
  | false =>
      rw [hmode, if_neg Bool.false_ne_true] at h
      rw [gaps, spacing, hmode, if_neg Bool.false_ne_true, h]
      have hsplit := List.flatMap_append_perm ts id fun _ => gap setup.interCallDelay
      simpa [List.flatMap_def, List.map_const'] using hsplit.symm

theorem exists_settles_categoryResults (model : String → Except CallError String) (setup : Setup)
    {categories : List Category} (hreadable : s.Readable categories) :
    ∃ u results, Waits setup.maxRetries.toNat categories.length (paused u) ∧
      ∀ concurrent, Settles (answerBy model)
        (categoryResults { setup with concurrent } s categories)
        (u ++ gaps { setup with concurrent } categories.length) (.ok results) := by
  obtain ⟨runs, hwaits, heach⟩ := exists_settleEach_askCategory model setup hreadable
  have hlength : categories.length = runs.length := by
    simpa using (heach true).length_eq
  obtain ⟨t, hrun, -⟩ := ((heach true).fanOut true).exists_runs
  obtain ⟨runs', hruns', -, hsame⟩ := runs_together.mp hrun
  obtain ⟨results, hall'⟩ := exists_answered_of_runsEach hreadable hruns'
  refine ⟨(runs.map Prod.fst).flatten, results, ?_, fun concurrent t outcome hrun hfollows => ?_⟩
  · rw [hlength, ← List.length_map (f := Prod.fst)]
    exact waits_flatten (List.forall_mem_map.mpr hwaits)
  · obtain ⟨runs'', results'', hall, rfl, hschedule⟩ :=
      exists_of_runs_categoryResults hreadable hrun
    have hperm := hschedule.perm
    obtain ⟨heq, hflatten⟩ := (heach concurrent).perm hall.ended
      (hfollows.of_subset fun _ he => hperm.symm.subset (List.mem_append_left _ he))
    have hresults : results'' = results :=
      eq_of_map_ok_eq (hall.succeeded.symm.trans (heq.trans (hsame.trans hall'.succeeded)))
    have hcount : (runs''.map Prod.fst).length = categories.length := by
      simpa using hall.ended.length_eq.symm
    rw [hcount] at hperm
    exact ⟨congrArg _ hresults, hperm.trans (hflatten.append_right _)⟩

theorem exists_settles_shorten (model : String → Except CallError String) (setup : Setup)
    (budget : Int) (r : Result) :
    ∃ u content, paused u = [] ∧ ∀ concurrent, Settles (answerBy model)
      (shorten { setup with concurrent } budget r) u content := by
  rcases le_or_gt (tokenCount r.told : Int) budget with hfits | hlong
  · refine ⟨[], r.told, rfl, fun concurrent => ?_⟩
    rw [shorten_of_fits hfits]
    exact settles_pure _
  · exact exists_settles_of_summary (fun _ => shorten_of_long hlong) fun _ => ⟨_, rfl⟩

theorem exists_settles_blockOf (model : String → Except CallError String) (setup : Setup)
    (count : Nat) (r : Result) :
    ∃ u block, paused u = [] ∧ ∀ concurrent, Settles (answerBy model)
      (blockOf { setup with concurrent } count r) u block := by
  obtain ⟨u, content, hpaused, hsettles⟩ :=
    exists_settles_shorten model setup (blockBudget setup count) r
  exact ⟨u, r.block content, hpaused, fun concurrent => (hsettles concurrent).bind_pure rfl⟩

theorem exists_settles_joinResults (model : String → Except CallError String) (setup : Setup)
    (s : Subject) (last : Category) (results : List Result) :
    ∃ u synthesis, Waits setup.maxRetries.toNat 1 (paused u) ∧
      ∀ concurrent, Settles (answerBy model)
        (joinResults { setup with concurrent } s last results) u synthesis := by
  have hblocks : ∀ r ∈ results, ∃ u block, paused u = [] ∧ ∀ concurrent,
      Settles (answerBy model) (blockOf { setup with concurrent } results.length r) u block :=
    fun r _ => exists_settles_blockOf model setup results.length r
  obtain ⟨runs, hnone, heach⟩ := exists_settleEach hblocks
  let blocks := runs.map Prod.snd
  obtain ⟨w, outcome, hwaits, hask⟩ := exists_settles_askUpTo model
    (last.prompt { s.context with priorBlocks := blocks }) last.name (standInForAll setup results)
    setup.maxRetries.toNat
  have hpaused : paused (runs.map Prod.fst).flatten = [] := by
    rw [paused_flatten, List.flatten_eq_nil_iff, List.forall_mem_map, List.forall_mem_map]
    exact hnone
  refine ⟨(runs.map Prod.fst).flatten ++ w, titled setup last outcome, ?_, fun concurrent => ?_⟩
  · rwa [paused_append, hpaused, List.nil_append]
  · exact ((heach concurrent).fanOut false).bind (hask.bind_pure rfl)

theorem exists_settles_run (model : String → Except CallError String) (setup : Setup)
    {categories : List Category} (last : Category) (hreadable : s.Readable categories) :
    ∃ u results synthesis, Waits setup.maxRetries.toNat (categories.length + 1) (paused u) ∧
      ∀ concurrent, Settles (answerBy model) (run { setup with concurrent } s categories last)
        (u ++ gaps { setup with concurrent } categories.length)
        (.ok ⟨results, some synthesis, false, setup.provider, none⟩) := by
  obtain ⟨u, results, hcategories, hresults⟩ := exists_settles_categoryResults model setup hreadable
  obtain ⟨v, synthesis, hlast, hjoin⟩ := exists_settles_joinResults model setup s last results
  refine ⟨u ++ v, results, synthesis, ?_, fun concurrent => ?_⟩
  · rw [paused_append]
    exact hcategories.append hlast
  · have hrun : Settles (answerBy model) (run { setup with concurrent } s categories last) _ _ :=
      (hresults concurrent).bind ((hjoin concurrent).bind_pure rfl)
    refine hrun.of_perm ?_
    rw [List.append_assoc, List.append_assoc]
    exact List.perm_append_comm.append_left u

section

variable {categories : List Category} {last : Category} {t : List (Event Call)} {report : Report}

theorem runs_runInTime {outcome : Except Utf8.Fault Report}
    (h : Runs (run setup s categories last) t outcome) :
    Runs (runInTime setup s categories last) t outcome :=
  ⟨t, [], (List.append_nil t).symm, .inl ⟨outcome, h, rfl, rfl⟩⟩

theorem runs_of_runInTime (h : Runs (runInTime setup s categories last) t (.ok report))
    (hintime : report.timedOut = false) : Runs (run setup s categories last) t (.ok report) := by
  obtain ⟨w, u, rfl, ⟨outcome, hrun, hend⟩ | ⟨-, hend⟩⟩ := h
  · obtain ⟨rfl, rfl⟩ := hend
    rwa [List.append_nil]
  · obtain ⟨-, hreport⟩ := hend
    cases hreport
    cases hintime

theorem readable_of_runs (h : Runs (run setup s categories last) t (.ok report)) :
    s.Readable categories := by
  rw [run] at h
  obtain ⟨outcome, u, v, rfl, hcategories, hrest⟩ := runs_bind.mp h
  cases outcome with
  | error f => cases (runs_pure.mp hrest).2
  | ok results => exact readable_of_runs_categoryResults hcategories

theorem agrees_of_settles {u : List (Event Call)} {settled : Report}
    (h : Settles (answerBy model) (run setup s categories last)
      (u ++ gaps setup categories.length) (.ok settled))
    (hrun : Runs (run setup s categories last) t (.ok report)) (hanswered : AnsweredBy model t) :
    report = settled ∧ (sent t).Perm (sent u) ∧
      (paused t).Perm (paused u ++ spacing setup categories.length) := by
  obtain ⟨hreport, hperm⟩ := h hrun (follows_answerBy.mpr hanswered)
  refine ⟨Except.ok.inj hreport, ?_, ?_⟩
  · have hsent : (sent t).Perm (sent (u ++ gaps setup categories.length)) := hperm.filterMap _
    rwa [sent_append, sent_gaps, List.append_nil] at hsent
  · have hpaused : (paused t).Perm (paused (u ++ gaps setup categories.length)) :=
      hperm.filterMap _
    rwa [paused_append, paused_gaps] at hpaused

end

/-- With a model that goes by the prompt alone, every analysis that ends in time comes to the same
results and sends the same prompts, whether its calls run side by side or in turn and in whatever
order they end. In turn it waits behind each category; else it waits only to try again. -/
theorem runInTime_same_in_any_order (model : String → Except CallError String) (setup : Setup)
    (s : Subject) (categories : List Category) (last : Category) :
    ∃ results synthesis messages delays,
      Waits setup.maxRetries.toNat (categories.length + 1) delays ∧
      ∀ concurrent,
        (s.Readable categories → ∃ t report,
          Steps (runInTime { setup with concurrent } s categories last) t (.done (.ok report)) ∧
          AnsweredBy model t ∧ report.timedOut = false) ∧
        ∀ t report,
          Steps (runInTime { setup with concurrent } s categories last) t (.done (.ok report)) →
          AnsweredBy model t → report.timedOut = false →
          report.results = results ∧ report.synthesis = some synthesis ∧
            (sent t).Perm messages ∧ (paused t).Perm
              (delays ++ if concurrent then []
                else List.replicate categories.length setup.interCallDelay) := by
  by_cases hreadable : s.Readable categories
  · obtain ⟨u, results, synthesis, hwaits, hsettles⟩ :=
      exists_settles_run model setup last hreadable
    refine ⟨results, synthesis, sent u, paused u, hwaits, fun concurrent => ⟨fun _ => ?_, ?_⟩⟩
    · obtain ⟨t, hrun, hfollows⟩ := (hsettles concurrent).exists_runs
      exact ⟨t, _, (runs_runInTime hrun).steps, follows_answerBy.mp hfollows, rfl⟩
    · intro t report hsteps hanswered hintime
      have hrun := runs_of_runInTime (steps_done_iff.mp hsteps) hintime
      obtain ⟨rfl, hsent, hpaused⟩ := agrees_of_settles (hsettles concurrent) hrun hanswered
      exact ⟨rfl, rfl, hsent, hpaused⟩
  · have hnone : Waits setup.maxRetries.toNat (categories.length + 1) [] :=
      ⟨List.replicate (categories.length + 1) 0, List.length_replicate, by simp,
        by simp [backOffs]⟩
    refine ⟨[], ⟨"", "", .error, 0, none, none⟩, [], [], hnone, fun concurrent => ⟨?_, ?_⟩⟩
    · exact fun h => absurd h hreadable
    · intro t report hsteps hanswered hintime
      have hrun := runs_of_runInTime (steps_done_iff.mp hsteps) hintime
      exact absurd (readable_of_runs hrun) hreadable

end Dissect.Analysis
