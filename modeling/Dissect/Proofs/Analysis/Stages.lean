import Dissect.Analysis.Run
import Dissect.Proofs.Analysis.Attempts
import Dissect.Proofs.Outcome

namespace Dissect.Analysis

open Plan Summary
open Text (Utf8.Fault)

/-- Each unit that categories show to the model is in a file that cannot be opened or can be read.
-/
def Subject.Readable (s : Subject) (categories : List Category) : Prop :=
  ∀ c ∈ categories, ∀ u ∈ largestUnits s.groups c.kinds c.sampleLimit,
    ∃ text, s.unitText u = .ok text

structure Answers (useFallback : Bool) (c : Category) (r : Result) : Prop
    extends Contained useFallback r where
  category : r.category = c.name
  title : r.title = some c.title

def standInFor (setup : Setup) (s : Subject) (c : Category) : Option String :=
  if setup.useFallback then some (standInText c s.groups s.partition.lineCount) else none

def standInForAll (setup : Setup) (results : List Result) : Option String :=
  if setup.useFallback then some (standInSynthesis results) else none

def blockOf (setup : Setup) (count : Nat) (r : Result) : Plan Call String :=
  shorten setup (blockBudget setup count) r >>= fun content => pure (r.block content)

def Result.told (r : Result) : String :=
  if r.status = .error then "Failed: " ++ r.error.getD "None" else r.content

def condensePrompt (r : Result) : String :=
  "Condense this " ++ r.heading ++ " analysis, keeping its key findings:"

def textOr (other : String) : Except CallError Summary → String
  | .ok s => s.text
  | .error _ => other

def promptWith (s : Subject) (c : Category) (samples : String) : String :=
  c.prompt { s.context with samples }

/-- What all categories show: side by side in any order, else in turn and a pause after each. -/
def Schedule (setup : Setup) (ts : List (List (Event Call))) (t : List (Event Call)) : Prop :=
  if setup.concurrent then Woven ts t
  else t = (ts.map (· ++ gap setup.interCallDelay)).flatten

/-- Runs of the calls about all categories, each to its end, and their results. -/
structure Answered (setup : Setup) (s : Subject) (categories : List Category)
    (runs : List (List (Event Call) × Except Utf8.Fault Result)) (results : List Result) :
    Prop where
  ended : RunsEach (categories.map (askCategory setup s)) runs
  succeeded : runs.map Prod.snd = results.map .ok
  answers : List.Forall₂ (Answers setup.useFallback) categories results

variable {setup : Setup} {s : Subject} {c : Category} {categories : List Category}
  {t : List (Event Call)}

theorem shorten_of_fits {budget : Int} {r : Result} (h : (tokenCount r.told : Int) ≤ budget) :
    shorten setup budget r = pure r.told :=
  if_pos h

theorem shorten_of_long {budget : Int} {r : Result} (h : budget < tokenCount r.told) :
    shorten setup budget r =
      (ofText setup.concurrent setup.budget (condensePrompt r) r.told 0 >>= fun result =>
        pure (textOr (Text.front r.told (budget * tokenLength)) result)) := by
  refine (if_neg (not_le.mpr h)).trans (congrArg (bind _) (funext fun result => ?_))
  cases result <;> rfl

theorem promptFor_of_kept {samples : String} (h : samples = "" ∨
    (tokenCount (promptWith s c samples) : Int) ≤ setup.budget.contextLimit) :
    promptFor setup s c samples = pure (promptWith s c samples) :=
  if_pos (by simpa [promptWith] using h)

theorem promptFor_of_not_kept {samples : String} (h : ¬ (samples = "" ∨
    (tokenCount (promptWith s c samples) : Int) ≤ setup.budget.contextLimit)) :
    promptFor setup s c samples =
      (ofText setup.concurrent setup.budget compressionPrompt samples 0 >>= fun result =>
        pure (promptWith s c (textOr "" result))) :=
  if_neg (by simpa [promptWith] using h)

theorem exists_sampleSections_iff {units : List SourceUnit} :
    (∃ sections, sampleSections s units = .ok sections) ↔
      ∀ u ∈ units, ∃ text, s.unitText u = .ok text := by
  induction units with
  | nil => simp [sampleSections]
  | cons u units ih =>
      rw [List.forall_mem_cons, ← ih, sampleSections]
      constructor
      · rintro ⟨_, h⟩
        obtain ⟨text, htext, hbehind⟩ := bind_eq_ok_iff.mp h
        obtain ⟨sections, hsections, -⟩ := bind_eq_ok_iff.mp hbehind
        exact ⟨⟨text, htext⟩, sections, hsections⟩
      · rintro ⟨⟨text, htext⟩, sections, hsections⟩
        exact ⟨_, bind_eq_ok_iff.mpr ⟨text, htext, bind_eq_ok_iff.mpr ⟨sections, hsections, rfl⟩⟩⟩

theorem exists_samplesFor_iff : (∃ samples, samplesFor s c = .ok samples) ↔
    ∀ u ∈ largestUnits s.groups c.kinds c.sampleLimit, ∃ text, s.unitText u = .ok text := by
  rw [← exists_sampleSections_iff, samplesFor]
  exact ⟨fun ⟨_, h⟩ => (map_eq_ok_iff.mp h).imp fun _ hsections => hsections.1,
    fun ⟨_, hsections⟩ => ⟨_, map_eq_ok_iff.mpr ⟨_, hsections, rfl⟩⟩⟩

theorem isSome_standInFor : (standInFor setup s c).isSome = setup.useFallback := by
  rw [standInFor]
  cases setup.useFallback <;> rfl

theorem isSome_standInForAll {results : List Result} :
    (standInForAll setup results).isSome = setup.useFallback := by
  rw [standInForAll]
  cases setup.useFallback <;> rfl

theorem answers_titled {prompt : String} {fallback : Option String} {left attempt : Nat}
    {outcome : Except CallError Result}
    (h : Attempts prompt c.name fallback left attempt t outcome)
    (hfallback : fallback.isSome = setup.useFallback) :
    Answers setup.useFallback c (titled setup c outcome) := by
  cases outcome with
  | ok r =>
      obtain ⟨hcategory, hcontained⟩ := h.contained_of_ok rfl
      rw [hfallback] at hcontained
      exact { hcontained with category := hcategory, title := rfl }
  | error e =>
      rw [h.fallback_eq_none_of_error rfl] at hfallback
      exact {
        withFallback := fun hwanted => nomatch hfallback.trans hwanted
        withoutFallback := fun _ => .inr rfl
        usable := nofun
        category := rfl
        title := rfl }

theorem runs_askCategory {samples : String} {outcome : Except Utf8.Fault Result}
    (hsamples : samplesFor s c = .ok samples) (h : Runs (askCategory setup s c) t outcome) :
    ∃ prompt u v result, t = u ++ v ∧ Runs (promptFor setup s c samples) u prompt ∧
      Runs (askUpTo prompt c.name (standInFor setup s c) setup.maxRetries.toNat) v result ∧
      outcome = .ok (titled setup c result) := by
  rw [askCategory, hsamples] at h
  obtain ⟨prompt, u, v, rfl, hprompt, hrest⟩ := runs_bind.mp h
  obtain ⟨result, hask, rfl⟩ := runs_bind_pure.mp hrest
  exact ⟨prompt, u, v, result, rfl, hprompt, hask, rfl⟩

theorem exists_answer_of_runs (hreadable : s.Readable categories)
    (hc : c ∈ categories) {outcome : Except Utf8.Fault Result}
    (h : Runs (askCategory setup s c) t outcome) :
    ∃ r, outcome = .ok r ∧ Answers setup.useFallback c r := by
  obtain ⟨samples, hsamples⟩ := exists_samplesFor_iff.mpr (hreadable c hc)
  obtain ⟨prompt, u, v, result, rfl, -, hask, rfl⟩ := runs_askCategory hsamples h
  exact ⟨_, rfl, answers_titled (attempts_of_runs hask) isSome_standInFor⟩

theorem exists_samplesFor_of_runs {r : Result} (h : Runs (askCategory setup s c) t (.ok r)) :
    ∃ samples, samplesFor s c = .ok samples := by
  rw [askCategory] at h
  cases hsamples : samplesFor s c with
  | error f =>
      rw [hsamples] at h
      cases (runs_pure.mp h).2
  | ok samples => exact ⟨samples, rfl⟩

theorem Answered.cons {runs : List (List (Event Call) × Except Utf8.Fault Result)}
    {results : List Result} {r : Result} (hask : Runs (askCategory setup s c) t (.ok r))
    (hanswers : Answers setup.useFallback c r) (h : Answered setup s categories runs results) :
    Answered setup s (c :: categories) ((t, .ok r) :: runs) (r :: results) where
  ended := .cons hask h.ended
  succeeded := by rw [List.map_cons, h.succeeded, List.map_cons]
  answers := .cons hanswers h.answers

theorem exists_answered_of_runsEach (hreadable : s.Readable categories)
    {runs : List (List (Event Call) × Except Utf8.Fault Result)}
    (h : RunsEach (categories.map (askCategory setup s)) runs) :
    ∃ results, Answered setup s categories runs results := by
  induction categories generalizing runs with
  | nil =>
      obtain rfl := List.forall₂_nil_left_iff.mp h
      exact ⟨[], .nil, rfl, .nil⟩
  | cons c categories ih =>
      obtain ⟨⟨t, _⟩, runs, hask, hruns, rfl⟩ := List.forall₂_cons_left_iff.mp h
      obtain ⟨r, rfl, hanswers⟩ := exists_answer_of_runs hreadable List.mem_cons_self hask
      obtain ⟨results, hall⟩ := ih (fun c hc => hreadable c (List.mem_cons_of_mem _ hc)) hruns
      exact ⟨r :: results, hall.cons hask hanswers⟩

theorem readable_of_runsEach {results : List Result}
    {runs : List (List (Event Call) × Except Utf8.Fault Result)}
    (h : RunsEach (categories.map (askCategory setup s)) runs)
    (hresults : runs.map Prod.snd = results.map .ok) : s.Readable categories := by
  induction categories generalizing runs results with
  | nil => exact fun c hc => nomatch hc
  | cons c categories ih =>
      obtain ⟨run, runs, hrun, hruns, rfl⟩ := List.forall₂_cons_left_iff.mp h
      cases results with
      | nil => cases hresults
      | cons r results =>
          obtain ⟨hr, hrest⟩ := List.cons.inj hresults
          rw [hr] at hrun
          exact List.forall_mem_cons.mpr
            ⟨exists_samplesFor_iff.mp (exists_samplesFor_of_runs hrun), ih hruns hrest⟩

theorem mapM_id_eq_ok {ε α : Type} {xs : List (Except ε α)} {as : List α} :
    xs.mapM id = .ok as ↔ xs = as.map .ok := by
  induction xs generalizing as with
  | nil =>
      cases as with
      | nil => exact iff_of_true rfl rfl
      | cons a as => exact iff_of_false nofun nofun
  | cons x xs ih =>
      rw [List.mapM_cons, bind_eq_ok_iff]
      constructor
      · rintro ⟨a, hx, h⟩
        obtain ⟨as', hrest, ⟨⟩⟩ := bind_eq_ok_iff.mp h
        rw [ih.mp hrest, List.map_cons, ← hx, id_eq]
      · intro h
        cases as with
        | nil => cases h
        | cons a as =>
            obtain ⟨hx, hrest⟩ := List.cons.inj h
            exact ⟨a, hx, bind_eq_ok_iff.mpr ⟨as, ih.mpr hrest, rfl⟩⟩

theorem eq_of_map_ok_eq {ε α : Type} {as bs : List α}
    (h : (as.map .ok : List (Except ε α)) = bs.map .ok) : as = bs :=
  List.map_injective_iff.mpr (fun _ _ => Except.ok.inj) h

def lead (setup : Setup) (found : List Result) : List (Event Call) :=
  if found.isEmpty then [] else gap setup.interCallDelay

theorem runs_inTurn_cons {found : List Result}
    {outcome : Except Utf8.Fault (List Result)}
    (h : Runs (inTurn setup s found (c :: categories)) t outcome) :
    ∃ u result v, t = lead setup found ++ (u ++ v) ∧ Runs (askCategory setup s c) u result ∧
      ((∃ f, result = .error f ∧ outcome = .error f) ∨
        ∃ r, result = .ok r ∧ Runs (inTurn setup s (r :: found) categories) v outcome) := by
  -- The rest of the plan is told by what it does with either outcome.
  have hbehind : ∃ (k : Except Utf8.Fault Result → Plan Call (Except Utf8.Fault (List Result)))
      (w : List (Event Call)), t = lead setup found ++ w ∧
      Runs (askCategory setup s c >>= k) w outcome ∧ (∀ f, k (.error f) = pure (.error f)) ∧
      ∀ r, k (.ok r) = inTurn setup s (r :: found) categories := by
    rw [inTurn] at h
    cases found with
    | nil => exact ⟨_, t, rfl, h, fun _ => rfl, fun _ => rfl⟩
    | cons r found =>
        obtain ⟨_, u, w, rfl, hpause, hrest⟩ := runs_bind.mp h
        obtain rfl := runs_perform.mp hpause
        exact ⟨_, w, rfl, hrest, fun _ => rfl, fun _ => rfl⟩
  obtain ⟨k, w, rfl, hrest, herror, hok⟩ := hbehind
  obtain ⟨result, u, v, rfl, hask, hlater⟩ := runs_bind.mp hrest
  refine ⟨u, result, v, rfl, hask, ?_⟩
  cases result with
  | error f =>
      rw [herror] at hlater
      exact .inl ⟨f, rfl, (runs_pure.mp hlater).2⟩
  | ok r =>
      rw [hok] at hlater
      exact .inr ⟨r, rfl, hlater⟩

theorem exists_of_runs_inTurn {found : List Result} (hreadable : s.Readable categories)
    {outcome : Except Utf8.Fault (List Result)}
    (h : Runs (inTurn setup s found categories) t outcome) :
    ∃ runs results, Answered setup s categories runs results ∧
      outcome = .ok (found.reverse ++ results) ∧
      t ++ (if categories.isEmpty then lead setup found else gap setup.interCallDelay)
        = lead setup found ++ (runs.map (·.1 ++ gap setup.interCallDelay)).flatten := by
  -- By induction on the categories that are left. The pause that leads a call closes the one before
  -- it, so that with one more pause at the end there is one behind every call.
  induction categories generalizing found t with
  | nil =>
      obtain ⟨rfl, rfl⟩ := h
      exact ⟨[], [], ⟨.nil, rfl, .nil⟩, by rw [List.append_nil], by simp⟩
  | cons c categories ih =>
      obtain ⟨u, result, v, rfl, hask, hnext⟩ := runs_inTurn_cons h
      obtain ⟨r, rfl, hanswers⟩ := exists_answer_of_runs hreadable List.mem_cons_self hask
      obtain ⟨f, hfault, -⟩ | ⟨r', hr', hlater⟩ := hnext
      · cases hfault
      obtain rfl := Except.ok.inj hr'
      obtain ⟨runs, results, hall, rfl, heq⟩ :=
        ih (fun c hc => hreadable c (List.mem_cons_of_mem _ hc)) hlater
      have hrest : v ++ gap setup.interCallDelay = gap setup.interCallDelay
          ++ (runs.map (·.1 ++ gap setup.interCallDelay)).flatten := by
        simpa [lead] using heq
      refine ⟨(u, .ok r) :: runs, r :: results, hall.cons hask hanswers, ?_, ?_⟩
      · rw [List.reverse_cons, List.append_assoc, List.singleton_append]
      · simp [hrest]

theorem readable_of_runs_inTurn {found results : List Result}
    (h : Runs (inTurn setup s found categories) t (.ok results)) : s.Readable categories := by
  induction categories generalizing found t with
  | nil => exact fun c hc => nomatch hc
  | cons c categories ih =>
      obtain ⟨u, _, v, rfl, hask, ⟨f, -, hfault⟩ | ⟨r, rfl, hlater⟩⟩ := runs_inTurn_cons h
      · cases hfault
      exact List.forall_mem_cons.mpr
        ⟨exists_samplesFor_iff.mp (exists_samplesFor_of_runs hask), ih hlater⟩

theorem runs_categoryResults_together (hmode : setup.concurrent = true)
    {outcome : Except Utf8.Fault (List Result)}
    (h : Runs (categoryResults setup s categories) t outcome) :
    ∃ runs, RunsEach (categories.map (askCategory setup s)) runs ∧
      Woven (runs.map Prod.fst) t ∧ outcome = (runs.map Prod.snd).mapM id := by
  rw [categoryResults, hmode] at h
  obtain ⟨_, htogether, rfl⟩ := runs_bind_pure.mp h
  obtain ⟨runs, hruns, hwoven, rfl⟩ := runs_together.mp htogether
  exact ⟨runs, hruns, hwoven, rfl⟩

theorem runs_categoryResults_inTurn (hmode : setup.concurrent = false)
    {outcome : Except Utf8.Fault (List Result)}
    (h : Runs (categoryResults setup s categories) t outcome) :
    ∃ u v, t = u ++ v ∧ Runs (inTurn setup s [] categories) u outcome ∧
      ∀ results, outcome = .ok results →
        v = if categories.isEmpty then [] else gap setup.interCallDelay := by
  rw [categoryResults, hmode] at h
  obtain ⟨outcome', u, v, rfl, hturns, hend⟩ := runs_bind.mp h
  cases categories with
  | nil =>
      obtain ⟨rfl, rfl⟩ := runs_pure.mp hend
      exact ⟨u, [], rfl, hturns, fun _ _ => rfl⟩
  | cons c categories =>
      cases outcome' with
      | error f =>
          obtain ⟨rfl, rfl⟩ := runs_pure.mp hend
          exact ⟨u, [], rfl, hturns, nofun⟩
      | ok results =>
          obtain ⟨_, hpause, rfl⟩ := runs_bind_pure.mp hend
          exact ⟨u, v, rfl, hturns, fun _ _ => runs_perform.mp hpause⟩

theorem exists_of_runs_categoryResults (hreadable : s.Readable categories)
    {outcome : Except Utf8.Fault (List Result)}
    (h : Runs (categoryResults setup s categories) t outcome) :
    ∃ runs results, Answered setup s categories runs results ∧ outcome = .ok results ∧
      Schedule setup (runs.map Prod.fst) t := by
  cases hmode : setup.concurrent with
  | true =>
      obtain ⟨runs, hruns, hwoven, rfl⟩ := runs_categoryResults_together hmode h
      obtain ⟨results, hall⟩ := exists_answered_of_runsEach hreadable hruns
      refine ⟨runs, results, hall, mapM_id_eq_ok.mpr hall.succeeded, ?_⟩
      rwa [Schedule, hmode, if_pos rfl]
  | false =>
      obtain ⟨u, v, rfl, hturns, hlast⟩ := runs_categoryResults_inTurn hmode h
      obtain ⟨runs, results, hall, rfl, heq⟩ := exists_of_runs_inTurn hreadable hturns
      refine ⟨runs, results, hall, rfl, ?_⟩
      rw [hlast _ rfl, Schedule, hmode, if_neg Bool.false_ne_true, List.map_map]
      exact heq

theorem readable_of_runs_categoryResults {results : List Result}
    (h : Runs (categoryResults setup s categories) t (.ok results)) : s.Readable categories := by
  cases hmode : setup.concurrent with
  | true =>
      obtain ⟨runs, hruns, -, hresults⟩ := runs_categoryResults_together hmode h
      exact readable_of_runsEach hruns (mapM_id_eq_ok.mp hresults.symm)
  | false =>
      obtain ⟨u, v, -, hturns, -⟩ := runs_categoryResults_inTurn hmode h
      exact readable_of_runs_inTurn hturns

theorem runs_joinResults {results : List Result} {r : Result}
    (h : Runs (joinResults setup s c results) t r) :
    ∃ blocks v w outcome, t = v ++ w ∧
      Runs (inOrder (results.map (blockOf setup results.length))) v blocks ∧
      Runs (askUpTo (c.prompt { s.context with priorBlocks := blocks }) c.name
        (standInForAll setup results) setup.maxRetries.toNat) w outcome ∧
      r = titled setup c outcome := by
  rw [joinResults] at h
  obtain ⟨blocks, v, _, rfl, hblocks, hrest⟩ := runs_bind.mp h
  obtain ⟨outcome, hask, rfl⟩ := runs_bind_pure.mp hrest
  exact ⟨blocks, v, _, outcome, rfl, hblocks, hask, rfl⟩

def Category.heading (c : Category) : String :=
  if c.title.isEmpty then
    Text.title (String.ofList (c.name.toList.map fun x => if x == '_' then ' ' else x))
  else c.title

def Category.marker (c : Category) : String := "--- Analysis: " ++ c.heading ++ " ---\n"

theorem Answers.heading_eq {useFallback : Bool} {r : Result} (h : Answers useFallback c r) :
    r.heading = c.heading := by
  rw [Result.heading, h.title, h.category, Category.heading]
  cases htitle : c.title.isEmpty <;> simp [Option.filter, htitle]

theorem Answers.block_eq {useFallback : Bool} {r : Result} (h : Answers useFallback c r)
    (content : String) : r.block content = c.marker ++ content :=
  congrArg (fun heading => "--- Analysis: " ++ heading ++ " ---\n" ++ content) h.heading_eq

theorem marked_of_runs {useFallback : Bool} {count : Nat}
    {results : List Result} {runs : List (List (Event Call) × String)}
    (h : List.Forall₂ (Answers useFallback) categories results)
    (hruns : RunsEach (results.map (blockOf setup count)) runs) :
    List.Forall₂ (fun c block => ∃ content, block = c.marker ++ content) categories
      (runs.map Prod.snd) := by
  induction h generalizing runs with
  | nil =>
      obtain rfl := List.forall₂_nil_left_iff.mp hruns
      exact .nil
  | cons hanswers hall ih =>
      obtain ⟨run, runs, hrun, hrest, rfl⟩ := List.forall₂_cons_left_iff.mp hruns
      obtain ⟨content, -, hblock⟩ := runs_bind_pure.mp hrun
      exact .cons ⟨content, hblock.trans (hanswers.block_eq content)⟩ (ih hrest)

end Dissect.Analysis
