import Dissect.Proofs.Summary.Soundness
import Dissect.Proofs.Summary.Totals

namespace Dissect.Summary

open Plan Text

variable {concurrent : Bool} {b : Budget} {left : Nat} {depth : Int} {prompt text : String}

theorem exists_exchange_of_runs {t : List (Event Call)} {s : Summary}
    (h : Runs (ofTextFrom concurrent b left depth prompt text) t (.ok s)) :
    ∃ u m, t = u ++ exchange m (.ok s.text) := by
  obtain ⟨rounds, u, v, -, rfl, -, hend⟩ := exists_levels_of_runs h
  obtain ⟨body, degraded, reply, -, rfl, rfl⟩ := exists_of_concludes_ok hend
  exact ⟨u, _, rfl⟩

theorem exists_mem_chunksOnto {text : Array Char} {window overlap start : Int}
    {found : Array String} (h : start < text.size) :
    ∃ part, part ∈ chunksOnto text window overlap found start := by
  fun_cases chunksOnto text window overlap found start with
  | case1 _ limit stop found' hlast => exact ⟨_, Array.mem_push_self⟩
  | case2 _ limit stop found' hmore => exact ⟨_, mem_chunksOnto_of_mem Array.mem_push_self⟩
  | case3 hend => exact absurd h hend

theorem chunks_ne_nil (htext : text ≠ "") (chunkSize overlapSize : Int) :
    chunks text chunkSize overlapSize ≠ [] := by
  have hsize : (0 : Int) < text.toList.toArray.size := by
    rw [List.size_toArray, String.length_toList]
    exact_mod_cast Nat.pos_of_ne_zero (by simpa using htext)
  obtain ⟨part, hpart⟩ := exists_mem_chunksOnto hsize
  exact List.ne_nil_of_mem (Array.mem_toList_iff.mpr hpart)

theorem intercalate_ne_empty {separator first : String} {rest : List String} (h : first ≠ "") :
    separator.intercalate (first :: rest) ≠ "" := by
  cases rest with
  | nil => simpa using h
  | cons second rest =>
      rw [String.intercalate_cons_cons]
      simp [h]

def Round.ofWord (parts : List String) : Round := ⟨parts.map fun part => (part, .ok "done")⟩

theorem Round.bodies_ofWord (parts : List String) : (Round.ofWord parts).bodies = parts := by
  simp [Round.ofWord, Round.bodies, Function.comp_def]

theorem Round.usable_ofWord (parts : List String) :
    (Round.ofWord parts).usable = parts.map fun _ => "done" := by
  have huse : useOf (.ok "done") = some "done" := by decide
  simp [Round.ofWord, Round.usable, List.filterMap_map, huse]

theorem Round.joined_ofWord_ne {parts : List String} (h : parts ≠ []) :
    (Round.ofWord parts).joined ≠ "" := by
  obtain ⟨part, parts, rfl⟩ := List.exists_cons_of_ne_nil h
  have hword : "done" ≠ "" := by decide
  rw [Round.joined, Round.usable_ofWord]
  exact intercalate_ne_empty hword

/-- The calls of a round can be made one after another, whether or not they could be made side by
side. -/
theorem runs_fanOut_inTurn (concurrent : Bool) (r : Round) :
    Runs (fanOut concurrent (r.bodies.map ofPart)) r.inTurn (r.calls.map fun c => useOf c.2) := by
  have hruns := (runsEach_ofPart_iff.mpr ⟨r, rfl, rfl⟩).fanOut concurrent
  rwa [List.map_map, List.map_map] at hruns

theorem exists_runs_ofOneCall (prompt text : String) (degraded : Bool)
    (reply : Except CallError String) :
    ∃ t result, Runs (ofOneCall prompt text degraded) t result ∧
      result.map Summary.text = reply := by
  refine ⟨_, _, runs_ofOneCall.mpr ⟨reply, rfl, rfl⟩, ?_⟩
  cases reply <;> rfl

/-- Whatever the reply to the last call is, a summary of a text that is not empty can come to it. -/
theorem exists_runs_of_reply (htext : text ≠ "") (reply : Except CallError String) :
    ∃ t result, Runs (ofTextFrom concurrent b left depth prompt text) t result ∧
      result.map Summary.text = reply := by
  -- By induction on the levels that are left. Replies of use to all chunks lead to the next level,
  -- about a text that is not empty either.
  induction left generalizing depth prompt text with
  | zero =>
      obtain ⟨body, degraded, -, heq⟩ := exists_closing_zero concurrent b depth prompt text
      rw [heq]
      exact exists_runs_ofOneCall prompt body degraded reply
  | succ left ih =>
      rcases le_or_gt (tokenCount text : Int) b.contextLimit with hfits | hlong
      · rw [ofTextFrom_of_fits hfits]
        exact exists_runs_ofOneCall prompt text false reply
      · have hparts := chunks_ne_nil htext b.chunkSize b.overlapSize
        obtain ⟨r, hr⟩ : ∃ r, r = Round.ofWord (chunks text b.chunkSize b.overlapSize) := ⟨_, rfl⟩
        have hbodies : r.bodies = chunks text b.chunkSize b.overlapSize :=
          hr ▸ Round.bodies_ofWord _
        have husable : r.usable ≠ [] := by
          rw [hr, Round.usable_ofWord]
          simpa using hparts
        have hafter : ∃ t inner, Runs (afterRound concurrent b left depth prompt r.joined) t inner ∧
            inner.map Summary.text = reply := by
          rw [afterRound]
          split
          · exact ih (hr ▸ Round.joined_ofWord_ne hparts)
          · exact exists_runs_ofOneCall prompt r.joined false reply
        obtain ⟨t, inner, hinner, hreply⟩ := hafter
        refine ⟨r.inTurn ++ t, inner.map (reduced · r.calls.length r.dropped), ?_, ?_⟩
        · rw [ofTextFrom_succ hlong, ← hbodies]
          refine runs_bind.mpr ⟨_, _, t, rfl, runs_fanOut_inTurn concurrent r, ?_⟩
          rw [Round.bodies, List.length_map]
          exact runs_reduce.mpr (.inr ⟨husable, inner, hinner, rfl⟩)
        · rw [← hreply]
          cases inner <;> rfl

end Dissect.Summary
