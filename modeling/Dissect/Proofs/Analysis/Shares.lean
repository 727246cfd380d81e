import Dissect.Proofs.Analysis.Condensing
import Mathlib.Algebra.Order.BigOperators.Group.List

namespace Dissect.Analysis

open Plan Summary Text

/-- A run that joins results condenses one after another, each to an equal share of the limit, and
shows the contents that they come to in the prompt of a last call. -/
structure Joined (setup : Setup) (s : Subject) (c : Category) (results : List Result)
    (runs : List (List (Event Call) × String)) (t : List (Event Call)) (r : Result) : Prop where
  condensed : List.Forall₂
    (fun r run => Condensed setup (blockBudget setup results.length) r run.1 run.2) results runs
  last : ∃ v, t = (runs.map Prod.fst).flatten ++ v ∧
    ComesOf setup c
      (c.prompt { s.context with
        priorBlocks := List.zipWith Result.block results (runs.map Prod.snd) })
      (standInForAll setup results) v r

def tokensShown (runs : List (List (Event Call) × String)) : Int :=
  (runs.map fun run => (tokenCount run.2 : Int)).sum

section

variable {setup : Setup} {s : Subject} {c : Category} {results : List Result} {budget : Int}
  {runs : List (List (Event Call) × String)} {r : Result} {text content : String}
  {t : List (Event Call)}

theorem runsEach_blockOf_iff {count : Nat} {results : List Result}
    {shown : List (List (Event Call) × String)} :
    RunsEach (results.map (blockOf setup count)) shown ↔
      ∃ runs : List (List (Event Call) × String), List.Forall₂
          (fun r run => Condensed setup (blockBudget setup count) r run.1 run.2) results runs ∧
        shown = List.zipWith (fun r run => (run.1, r.block run.2)) results runs := by
  induction results generalizing shown with
  | nil =>
      constructor
      · rintro ⟨⟩
        exact ⟨[], .nil, rfl⟩
      · rintro ⟨_, ⟨⟩, rfl⟩
        exact .nil
  | cons r results ih =>
      constructor
      · rintro (_ | ⟨hrun, hrest⟩)
        obtain ⟨content, hcontent, hblock⟩ := runs_bind_pure.mp hrun
        obtain ⟨runs, hruns, rfl⟩ := ih.mp hrest
        exact ⟨(_, content) :: runs, .cons (runs_shorten_iff.mp hcontent) hruns,
          congrArg (· :: _) (Prod.ext rfl hblock)⟩
      · rintro ⟨_, _ | ⟨hcondensed, hruns⟩, rfl⟩
        exact .cons (runs_bind_pure.mpr ⟨_, runs_shorten_iff.mpr hcondensed, rfl⟩)
          (ih.mpr ⟨_, hruns, rfl⟩)

theorem map_fst_zipWith_block {results : List Result} {runs : List (List (Event Call) × String)}
    (h : results.length = runs.length) :
    (List.zipWith (fun r run => (run.1, r.block run.2)) results runs).map Prod.fst
      = runs.map Prod.fst := by
  rw [List.map_zipWith, ← List.map_uncurry_zip_eq_zipWith]
  conv_rhs => rw [← List.map_snd_zip h.symm.le, List.map_map]
  rfl

theorem map_snd_zipWith_block {results : List Result} {runs : List (List (Event Call) × String)} :
    (List.zipWith (fun r run => (run.1, r.block run.2)) results runs).map Prod.snd
      = List.zipWith Result.block results (runs.map Prod.snd) := by
  rw [List.map_zipWith, List.zipWith_map_right]

theorem runs_joinResults_iff {results : List Result} :
    Runs (joinResults setup s c results) t r ↔ ∃ runs, Joined setup s c results runs t r := by
  constructor
  · intro h
    obtain ⟨blocks, v, w, outcome, rfl, hblocks, hask, rfl⟩ := runs_joinResults h
    obtain ⟨shown, hshown, rfl, rfl⟩ := runs_inOrder.mp hblocks
    obtain ⟨runs, hruns, rfl⟩ := runsEach_blockOf_iff.mp hshown
    rw [map_snd_zipWith_block] at hask
    rw [map_fst_zipWith_block hruns.length_eq]
    exact ⟨runs, hruns, w, rfl, outcome, hask.steps, rfl⟩
  · rintro ⟨runs, hruns, v, rfl, outcome, hask, rfl⟩
    have hblocks : Runs (inOrder (results.map (blockOf setup results.length)))
        (runs.map Prod.fst).flatten (List.zipWith Result.block results (runs.map Prod.snd)) :=
      runs_inOrder.mpr ⟨_, runsEach_blockOf_iff.mpr ⟨runs, hruns, rfl⟩,
        by rw [map_fst_zipWith_block hruns.length_eq], map_snd_zipWith_block.symm⟩
    rw [joinResults]
    exact runs_bind.mpr ⟨_, _, v, rfl, hblocks,
      runs_bind_pure.mpr ⟨outcome, steps_done_iff.mp hask, rfl⟩⟩

theorem tokenCount_front_le (hbudget : 0 ≤ budget) (hlong : budget < tokenCount text) :
    (tokenCount (front text (budget * tokenLength)) : Int) ≤ budget := by
  obtain ⟨hfront, -⟩ := toList_front hbudget hlong
  refine tokenCount_le_of_length_le ?_
  rw [← String.length_toList, hfront, List.length_take, tokenLength]
  omega

theorem Condensed.of_long (hbudget : 0 ≤ budget) (h : Condensed setup budget r t content)
    (hcontent : budget < tokenCount content) :
    SumsUp setup (condensePrompt r) r.told t content := by
  rcases h with hfits | ⟨hlong, hsum | hfails⟩
  · exact absurd hfits (not_le.mpr hcontent)
  · exact hsum
  · exact absurd (tokenCount_front_le hbudget hlong) (not_le.mpr hcontent)

theorem blockBudget_eq {count : Nat} (hsome : 1 ≤ count)
    (hlimit : (count : Int) ≤ setup.budget.contextLimit) :
    blockBudget setup count = setup.budget.contextLimit / count := by
  have hone : 1 ≤ setup.budget.contextLimit / count :=
    Int.le_ediv_of_mul_le (by omega) (by omega)
  rw [blockBudget, max_eq_left hsome, Int.fdiv_eq_ediv_of_nonneg _ (Int.natCast_nonneg count),
    max_eq_left hone]

theorem tokenCount_le_of_condensed
    (h : List.Forall₂ (fun r run => Condensed setup budget r run.1 run.2) results runs)
    (hfits : ∀ r ∈ results, (tokenCount r.told : Int) ≤ budget) :
    ∀ run ∈ runs, (tokenCount run.2 : Int) ≤ budget := by
  induction h with
  | nil => simp
  | cons hrun hruns ih =>
      obtain ⟨hfirst, hrest⟩ := List.forall_mem_cons.mp hfits
      refine List.forall_mem_cons.mpr ⟨?_, ih hrest⟩
      rwa [hrun.eq_told hfirst]

theorem tokensShown_le (h : ∀ run ∈ runs, (tokenCount run.2 : Int) ≤ budget) :
    tokensShown runs ≤ runs.length * budget := by
  have hall : ∀ x ∈ runs.map fun run => (tokenCount run.2 : Int), x ≤ budget := by
    simpa only [List.forall_mem_map] using h
  have hsum := List.sum_le_card_nsmul _ budget hall
  rwa [List.length_map, nsmul_eq_mul] at hsum

theorem le_tokensShown {run : List (Event Call) × String} (h : run ∈ runs) :
    (tokenCount run.2 : Int) ≤ tokensShown runs := by
  refine List.single_le_sum (List.forall_mem_map.mpr fun run _ => ?_) _ (List.mem_map_of_mem h)
  exact Int.natCast_nonneg _

theorem exists_joined (hbudget : 0 ≤ blockBudget setup results.length) {r : Result}
    (hr : r ∈ results) (hlong : blockBudget setup results.length < tokenCount r.told)
    (size : Nat) :
    ∃ runs t joined, Joined setup s c results runs t joined ∧
      ∃ run ∈ runs, size ≤ tokenCount run.2 := by
  have heach : ∀ r, ∃ t content, Condensed setup (blockBudget setup results.length) r t content ∧
      (blockBudget setup results.length < tokenCount r.told → size ≤ tokenCount content) := by
    intro r
    rcases le_or_gt (tokenCount r.told : Int) (blockBudget setup results.length) with hfits | hlong
    · exact ⟨_, _, .kept hfits, fun hlong => absurd hfits (not_le.mpr hlong)⟩
    · obtain ⟨t, hcondensed, -⟩ := exists_condensed setup hbudget hlong
        (String.ofList (List.replicate (size * tokenLength) 'a'))
      exact ⟨t, _, hcondensed, fun _ => (tokenCount_replicate size 'a').ge⟩
  choose shown content hcondensed hsize using heach
  obtain ⟨v, outcome, hask⟩ := exists_steps_done nonempty_answer
    (askUpTo (c.prompt { s.context with
      priorBlocks := List.zipWith Result.block results
        ((results.map fun r => (shown r, content r)).map Prod.snd) }) c.name
      (standInForAll setup results) setup.maxRetries.toNat)
  refine ⟨results.map fun r => (shown r, content r), _, _, ⟨?_, v, rfl, outcome, hask, rfl⟩,
    _, List.mem_map_of_mem hr, hsize r hlong⟩
  rw [List.forall₂_map_right_iff, List.forall₂_same]
  exact fun r _ => hcondensed r

/-- Where the sizes of all contents have a bound, no result is over the share. -/
theorem fits_of_forall_joined (hbudget : 0 ≤ blockBudget setup results.length) {bound : Int}
    (h : ∀ runs t r, Joined setup s c results runs t r →
      ∀ run ∈ runs, (tokenCount run.2 : Int) ≤ bound) :
    ∀ r ∈ results, (tokenCount r.told : Int) ≤ blockBudget setup results.length := by
  intro r hr
  by_contra hlong
  obtain ⟨runs, t, joined, hjoined, run, hrun, hsize⟩ :=
    exists_joined (s := s) (c := c) hbudget hr (not_le.mp hlong) (bound.toNat + 1)
  have hbound := h runs t joined hjoined run hrun
  omega

end

/-- The contents that are shown to the last call keep to their shares of the limit, and together to
the limit, whatever the model replies, only where no result is over its share. A content that is
over its share is the reply to the last call of a summary, as it came. -/
theorem joined_within_iff {setup : Setup} {results : List Result} (hsome : 1 ≤ results.length)
    (hlimit : (results.length : Int) ≤ setup.budget.contextLimit) (s : Subject) (c : Category) :
    let share := setup.budget.contextLimit / results.length
    blockBudget setup results.length = share ∧
    (∀ t r, Steps (joinResults setup s c results) t (.done r) ↔
      ∃ runs, Joined setup s c results runs t r) ∧
    (∀ runs t r, Joined setup s c results runs t r → List.Forall₂ (fun r run =>
      share < tokenCount run.2 → SumsUp setup (condensePrompt r) r.told run.1 run.2)
        results runs) ∧
    ((∀ runs t r, Joined setup s c results runs t r →
        ∀ run ∈ runs, (tokenCount run.2 : Int) ≤ share) ↔
      ∀ r ∈ results, (tokenCount r.told : Int) ≤ share) ∧
    ((∀ runs t r, Joined setup s c results runs t r →
        tokensShown runs ≤ setup.budget.contextLimit) ↔
      ∀ r ∈ results, (tokenCount r.told : Int) ≤ share) := by
  intro share
  have hshare : blockBudget setup results.length = share := blockBudget_eq hsome hlimit
  have hnonneg : 0 ≤ share := Int.ediv_nonneg (by omega) (by omega)
  have hall : results.length * share ≤ setup.budget.contextLimit :=
    Int.mul_ediv_self_le (by omega)
  clear_value share
  subst hshare
  refine ⟨rfl, fun t r => steps_done_iff.trans runs_joinResults_iff, ?_, ⟨?_, ?_⟩, ⟨?_, ?_⟩⟩
  · intro runs t r h
    exact h.condensed.imp fun r run hrun hlong => hrun.of_long hnonneg hlong
  · exact fits_of_forall_joined hnonneg
  · exact fun hfits runs t r h => tokenCount_le_of_condensed h.condensed hfits
  · intro hsum
    exact fits_of_forall_joined hnonneg fun runs t r h run hrun =>
      (le_tokensShown hrun).trans (hsum runs t r h)
  · intro hfits runs t r h
    have hle := tokensShown_le (tokenCount_le_of_condensed h.condensed hfits)
    rw [← h.condensed.length_eq] at hle
    exact hle.trans hall

theorem sixTokens_not_joined_within :
    1 ≤ [sixTokens].length ∧ ([sixTokens].length : Int) ≤ cramped.budget.contextLimit ∧
      ¬ ∀ runs t r, Joined cramped nothing plainFacet [sixTokens] runs t r →
        ∀ run ∈ runs,
          (tokenCount run.2 : Int) ≤ cramped.budget.contextLimit / [sixTokens].length := by
  have hlimit : ([sixTokens].length : Int) ≤ cramped.budget.contextLimit := by decide
  have hlong : ¬ ∀ r ∈ [sixTokens],
      (tokenCount r.told : Int) ≤ cramped.budget.contextLimit / [sixTokens].length := by decide
  exact ⟨le_rfl, hlimit, fun hall => hlong
    ((joined_within_iff le_rfl hlimit nothing plainFacet).2.2.2.1.mp hall)⟩

/-- A reply of six tokens takes the place of a result whose share of the limit is five. -/
theorem exists_joined_overlong :
    ∃ runs t r, Steps (joinResults cramped nothing plainFacet [sixTokens]) t (.done r) ∧
      Joined cramped nothing plainFacet [sixTokens] runs t r ∧
      runs.map Prod.snd = ["bbbbbbbbbbbbbbbbbbbbbbbb"] ∧
      cramped.budget.contextLimit / [sixTokens].length < tokenCount "bbbbbbbbbbbbbbbbbbbbbbbb" ∧
      cramped.budget.contextLimit < tokensShown runs := by
  obtain ⟨v, outcome, hask⟩ := exists_steps_done nonempty_answer
    (askUpTo (plainFacet.prompt { nothing.context with
      priorBlocks := [sixTokens.block "bbbbbbbbbbbbbbbbbbbbbbbb"] }) plainFacet.name
      (standInForAll cramped [sixTokens]) cramped.maxRetries.toNat)
  have hshare : blockBudget cramped [sixTokens].length = 5 := by decide
  have hcondensed := runs_shorten_iff.mp
    (steps_done_iff.mp (steps_shorten_sixTokens "bbbbbbbbbbbbbbbbbbbbbbbb"))
  rw [← hshare] at hcondensed
  have hjoined : Joined cramped nothing plainFacet [sixTokens] [(_, _)] _ _ :=
    ⟨.cons hcondensed .nil, v, rfl, outcome, hask, rfl⟩
  exact ⟨_, _, _, (runs_joinResults_iff.mpr ⟨_, hjoined⟩).steps, hjoined, rfl, by decide, by decide⟩

end Dissect.Analysis
