import Dissect.Proofs.Summary.Fidelity

namespace Dissect.Summary

open Plan Text

def sent (t : List (Event Call)) : List String :=
  t.filterMap fun
    | .begun (.ask m) => some m
    | _ => none

def IsSegment (b : Budget) (m : String) : Prop :=
  ∃ body, m = message partPrompt body ∧ (body.length : Int) ≤ b.chunkSize * tokenLength

/-- A message about a text that is left after `k` recursions. -/
def IsFinal (b : Budget) (prompt : String) (k : Nat) (m : String) : Prop :=
  ∃ body, m = message (escalated k prompt) body ∧ (body.length : Int) ≤ b.contextLimit * tokenLength

/-- A run that shows the events `u` of rounds and then the events `v` keeps to what is left of a
budget: it sends messages about chunks in the rounds, and after them at most one about the text that
is left, which a run that succeeds does send. -/
structure KeepsTo (b : Budget) (left : Nat) (prompt : String) (rounds : List Round)
    (u v : List (Event Call)) (result : Except CallError Summary) : Prop where
  segments : ∀ m ∈ sent u, IsSegment b m
  recursions_le : recursions b rounds ≤ left
  last : v = [] ∨ ∃ m, sent v = [m] ∧ IsFinal b prompt (recursions b rounds) m
  levels : ∀ s, result = .ok s →
    v ≠ [] ∧ 1 ≤ s.levels ∧ s.levels ≤ left + 1 ∧ (s.degraded → s.levels = left + 1)

theorem sent_append (t u : List (Event Call)) : sent (t ++ u) = sent t ++ sent u :=
  List.filterMap_append

theorem sent_exchange (m : String) (reply : Except CallError String) :
    sent (exchange m reply) = [m] :=
  rfl

section

variable {b : Budget} {text : String} {rounds : List Round} {u : List (Event Call)}

theorem Round.exists_of_mem_sent {r : Round} {t : List (Event Call)} (h : r.Shows t) {m : String}
    (hm : m ∈ sent t) : ∃ body ∈ r.bodies, m = message partPrompt body := by
  have hperm := h.perm.filterMap fun
    | .begun (.ask m) => some m
    | _ => none
  have hflat := hperm.mem_iff.mp hm
  obtain ⟨e, he, heq⟩ := List.mem_filterMap.mp hflat
  obtain ⟨_, hcall, hmem⟩ := List.mem_flatten.mp he
  obtain ⟨c, hc, rfl⟩ := List.mem_map.mp hcall
  have hsent : m ∈ sent (exchange (message partPrompt c.1) c.2) :=
    List.mem_filterMap.mpr ⟨e, hmem, heq⟩
  rw [sent_exchange, List.mem_singleton] at hsent
  exact ⟨c.1, List.mem_map_of_mem hc, hsent⟩

theorem Levels.isSegment (h : 0 ≤ b.overlapSize) (hlt : b.overlapSize < b.chunkSize)
    (hlevels : Levels b text rounds u) {m : String} (hm : m ∈ sent u) : IsSegment b m := by
  induction hlevels with
  | nil text => cases hm
  | cons hlong hbodies hshows hrest ih =>
      rw [sent_append] at hm
      rcases List.mem_append.mp hm with hm | hm
      · obtain ⟨body, hbody, rfl⟩ := Round.exists_of_mem_sent hshows hm
        rw [hbodies] at hbody
        exact ⟨body, rfl, length_le_of_mem_chunks h hlt hbody⟩
      · exact ih hm

theorem Closing.length_le (hlimit : 0 ≤ b.contextLimit) {left : Nat} {body : String}
    {degraded : Bool} (h : Closing b left rounds text body degraded) :
    (body.length : Int) ≤ b.contextLimit * tokenLength := by
  cases h with
  | whole hfits => exact length_le_of_tokenCount_le hfits
  | cutOff hlong hlevels =>
      obtain ⟨hfront, -⟩ := toList_front hlimit hlong
      rw [← String.length_toList, hfront, List.length_take, tokenLength]
      omega

end

section

variable {concurrent : Bool} {b : Budget} {left : Nat} {depth : Int} {prompt text : String}
  {t : List (Event Call)}

theorem exists_keepsTo_of_runs (h : 0 ≤ b.overlapSize) (hlt : b.overlapSize < b.chunkSize)
    (hlimit : 0 ≤ b.contextLimit) {result : Except CallError Summary}
    (hrun : Runs (ofTextFrom concurrent b left depth prompt text) t result) :
    ∃ rounds u v, Levels b text rounds u ∧ t = u ++ v ∧
      KeepsTo b left prompt rounds u v result := by
  obtain ⟨rounds, u, v, hlevels, rfl, hlength, hend⟩ := exists_levels_of_runs hrun
  have hrecursions : recursions b rounds ≤ left := List.countP_le_length.trans hlength
  refine ⟨rounds, u, v, hlevels, rfl, fun m => hlevels.isSegment h hlt, hrecursions, ?_, ?_⟩
  · rcases hend with ⟨-, -, -, -, rfl, -⟩ | ⟨-, body, degraded, reply, hclosing, rfl, -⟩
    · exact .inl rfl
    · exact .inr ⟨_, sent_exchange _ _, body, rfl, hclosing.length_le hlimit⟩
  · rintro s rfl
    obtain ⟨body, degraded, reply, hclosing, rfl, rfl⟩ := exists_of_concludes_ok hend
    refine ⟨List.cons_ne_nil _ _, Nat.le_add_left 1 _, Nat.succ_le_succ hlength, ?_⟩
    intro hdegraded
    cases hclosing with
    | whole hfits => cases hdegraded
    | cutOff hlong hlevels => exact congrArg (· + 1) hlevels

theorem nonempty_answer {β : Type} : Call β → Nonempty β
  | .ask _ => ⟨.ok ""⟩
  | .pause _ => ⟨()⟩

/-- A summary ends, and all its runs keep to the budget. -/
theorem ofText_halts_and_keepsTo (h : 0 ≤ b.overlapSize) (hlt : b.overlapSize < b.chunkSize)
    (hlimit : 0 ≤ b.contextLimit) :
    (ofText concurrent b prompt text depth).Halts ∧
      (∀ t q, Steps (ofText concurrent b prompt text depth) t q → ∀ m ∈ sent t,
        IsSegment b m ∨ ∃ k ≤ (b.recursionLimit - depth).toNat, IsFinal b prompt k m) ∧
      ∀ t result, Steps (ofText concurrent b prompt text depth) t (.done result) →
        ∃ rounds u v, Levels b text rounds u ∧ t = u ++ v ∧
          KeepsTo b (b.recursionLimit - depth).toNat prompt rounds u v result := by
  refine ⟨halts nonempty_answer _, ?_, ?_⟩
  · intro t q hsteps m hm
    -- What is sent so far is part of what a whole run sends.
    obtain ⟨t', result, hrun⟩ := hsteps.exists_runs nonempty_answer
    obtain ⟨rounds, u, v, -, heq, hkeeps⟩ := exists_keepsTo_of_runs h hlt hlimit hrun
    have hall : m ∈ sent u ++ sent v := by
      rw [← sent_append, ← heq, sent_append]
      exact List.mem_append_left _ hm
    rcases List.mem_append.mp hall with hu | hv
    · exact .inl (hkeeps.segments m hu)
    · rcases hkeeps.last with rfl | ⟨m', hsent, hfinal⟩
      · cases hv
      · rw [hsent, List.mem_singleton] at hv
        exact .inr ⟨_, hkeeps.recursions_le, hv ▸ hfinal⟩
  · intro t result hsteps
    exact exists_keepsTo_of_runs h hlt hlimit (steps_done_iff.mp hsteps)

end

theorem tight_halts_and_keepsTo :
    let p := ofText true tight "p" "abcdefgh" 0
    (∃ t s, Steps p t (.done (.ok s)) ∧ s.degraded = true) ∧
      p.Halts ∧
      (∀ t q, Steps p t q → ∀ m ∈ sent t,
        IsSegment tight m ∨ ∃ k ≤ (tight.recursionLimit - 0).toNat, IsFinal tight "p" k m) ∧
      ∀ t result, Steps p t (.done result) →
        ∃ rounds u v, Levels tight "abcdefgh" rounds u ∧ t = u ++ v ∧
          KeepsTo tight (tight.recursionLimit - 0).toNat "p" rounds u v result := by
  have hsizes : 0 ≤ tight.overlapSize ∧ tight.overlapSize < tight.chunkSize ∧
      0 ≤ tight.contextLimit := by decide
  exact ⟨exists_steps_tight, ofText_halts_and_keepsTo hsizes.1 hsizes.2.1 hsizes.2.2⟩

end Dissect.Summary
