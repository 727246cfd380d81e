import Dissect.Proofs.Analysis.Stages

namespace Dissect.Analysis

open Plan Summary
open Text (Utf8.Fault)

def lastPrompt (s : Subject) (last : Category) (blocks : List String) : String :=
  last.prompt { s.context with priorBlocks := blocks }

/-- The parts of an analysis: `u` is what the calls about the categories show, all to their ends, `v`
what their blocks take, and `w` the last call. -/
structure Staged (setup : Setup) (s : Subject) (categories : List Category) (last : Category)
    (runs : List (List (Event Call) × Except Utf8.Fault Result)) (blocks : List String)
    (u v w : List (Event Call)) (report : Report) : Prop
    extends Answered setup s categories runs report.results where
  schedule : Schedule setup (runs.map Prod.fst) u
  joined : Runs (inOrder (report.results.map (blockOf setup report.results.length))) v blocks
  marked : List.Forall₂ (fun c block => ∃ content, block = c.marker ++ content) categories blocks
  begun : ∃ w', w = .begun (.ask (lastPrompt s last blocks)) :: w'
  asked : ∀ m ∈ sent w, m = lastPrompt s last blocks
  synthesis : ∃ r, report.synthesis = some r ∧ Answers setup.useFallback last r

variable {setup : Setup} {s : Subject} {categories : List Category} {last : Category}

theorem exists_staged_of_runs (hreadable : s.Readable categories) {t : List (Event Call)}
    {outcome : Except Utf8.Fault Report} (h : Runs (run setup s categories last) t outcome) :
    ∃ report runs blocks u v w, outcome = .ok report ∧ t = u ++ (v ++ w) ∧
      Staged setup s categories last runs blocks u v w report := by
  rw [run] at h
  obtain ⟨_, u, x, rfl, hcategories, hrest⟩ := runs_bind.mp h
  obtain ⟨runs, results, hall, rfl, hschedule⟩ :=
    exists_of_runs_categoryResults hreadable hcategories
  obtain ⟨synthesis, hjoin, rfl⟩ := runs_bind_pure.mp hrest
  obtain ⟨blocks, v, w, result, rfl, hblocks, hlast, rfl⟩ := runs_joinResults hjoin
  have hattempts := attempts_of_runs hlast
  have hmarked : List.Forall₂ (fun c block => ∃ content, block = c.marker ++ content) categories
      blocks := by
    obtain ⟨each, heach, -, rfl⟩ := runs_inOrder.mp hblocks
    exact marked_of_runs hall.answers heach
  exact ⟨_, runs, blocks, u, v, w, rfl, rfl, {
    hall with
    schedule := hschedule
    joined := hblocks
    marked := hmarked
    begun := hattempts.exists_eq_begun
    asked := hattempts.sent_eq_prompt
    synthesis := ⟨_, rfl, answers_titled hattempts isSome_standInForAll⟩ }⟩

/-- An analysis of readable samples ends in a report, whatever the model replies and in whatever
order: one result for each category, and the last call behind all of them. -/
theorem run_halts_and_staged (setup : Setup) (last : Category)
    (hreadable : s.Readable categories) :
    (run setup s categories last).Halts ∧
      ∀ t outcome, Steps (run setup s categories last) t (.done outcome) →
        ∃ report runs blocks u v w, outcome = .ok report ∧ t = u ++ (v ++ w) ∧
          Staged setup s categories last runs blocks u v w report :=
  ⟨halts nonempty_answer _, fun _ _ hsteps =>
    exists_staged_of_runs hreadable (steps_done_iff.mp hsteps)⟩

/-- A program of a function and a variable; the file of the function cannot be opened, and that of
what is left over cannot be read. -/
def brief : Subject where
  partition := .ofUnits [
    ⟨0, "run", .function, 1, 1, 0, 16, "function run(){}", none, 0, [(1, 1)]⟩,
    ⟨1, "limit", .variable, 2, 2, 17, 29, "var limit=3;", none, 0, [(2, 2)]⟩,
    ⟨2, "base", .base, 3, 3, 30, 36, "run();", none, 0, [(3, 3)]⟩] 3 "app.js" false
  graph := none
  unitText u :=
    match u.kind with
    | .function => .ok none
    | .base => .error ⟨0xff, 0, 1, .invalidStart⟩
    | _ => .ok (some u.code)

def twoFacets : List Category :=
  [⟨"functions", "Functions", [.function, .method], 2, .ofKind "functions" []⟩,
    ⟨"shared_state", "", [.variable], 1, .ofKind "variables" []⟩]

theorem readable_brief : brief.Readable twoFacets := by
  have hfunctions : largestUnits brief.groups [.function, .method] 2
    = [⟨0, "run", .function, 1, 1, 0, 16, "function run(){}", none, 0, [(1, 1)]⟩] := by
    decide +kernel
  have hvariables : largestUnits brief.groups [.variable] 1
    = [⟨1, "limit", .variable, 2, 2, 17, 29, "var limit=3;", none, 0, [(2, 2)]⟩] := by
    decide +kernel
  intro c hc u hu
  rcases List.mem_pair.mp hc with rfl | rfl
  · rw [hfunctions, List.mem_singleton] at hu
    subst hu
    exact ⟨none, rfl⟩
  · rw [hvariables, List.mem_singleton] at hu
    subst hu
    exact ⟨_, rfl⟩

theorem brief_halts_and_staged :
    let last : Category := ⟨"synthesis", "Codebase Overview", [], 0, .synthesis⟩
    let setup : Setup := ⟨"local", true, .standard, twoFacets ++ [last], 3, 2.0, none, false⟩
    let p := run setup brief twoFacets last
    (∃ t report, Steps p t (.done (.ok report)) ∧ report.results.length = 2) ∧ p.Halts ∧
      ∀ t outcome, Steps p t (.done outcome) →
        ∃ report runs blocks u v w, outcome = .ok report ∧ t = u ++ (v ++ w) ∧
          Staged setup brief twoFacets last runs blocks u v w report := by
  intro last setup p
  have hall := run_halts_and_staged setup last readable_brief
  obtain ⟨t, outcome, hsteps⟩ := exists_steps_done nonempty_answer p
  obtain ⟨report, _, _, _, _, _, rfl, -, hstaged⟩ := hall.2 t outcome hsteps
  exact ⟨⟨t, report, hsteps, hstaged.answers.length_eq.symm⟩, hall⟩

end Dissect.Analysis
