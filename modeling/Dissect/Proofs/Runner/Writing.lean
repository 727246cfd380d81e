import Dissect.Proofs.FileTree
import Dissect.Proofs.Plan.Advance
import Dissect.Session

namespace Dissect.Runner

open Text

variable {σ α β : Type} {calls : Plan.Handler Call σ} {w w' : Surroundings σ} {time stop : Float}

abbrev carry (calls : Plan.Handler Call σ) (x : Step α) (time : Float) (w : Surroundings σ) :
    Plan.Progress Effect (Surroundings σ) (Except RunError α) :=
  Plan.advance (Surroundings.effects calls) x.run time w

theorem carry_bind_ok {x : Step α} {a : α} (h : carry calls x time w = ⟨.done (.ok a), stop, w'⟩)
    (k : α → Step β) : carry calls (x >>= k) time w = carry calls (k a) stop w' :=
  Plan.advance_bind h (ExceptT.bindCont k)

theorem carry_bind_error {x : Step α} {e : RunError}
    (h : carry calls x time w = ⟨.done (.error e), stop, w'⟩) (k : α → Step β) :
    carry calls (x >>= k) time w = ⟨.done (.error e), stop, w'⟩ :=
  Plan.advance_bind h (ExceptT.bindCont k)

theorem carry_of_ok {ε : Type} (wrap : ε → RunError) {e : Except ε α} {a : α} (h : e = .ok a)
    (time : Float) (w : Surroundings σ) :
    carry calls (Step.of wrap e) time w = ⟨.done (.ok a), time, w⟩ := by
  rw [h]
  rfl

def refused (path : Path) (f : FileFault) : RunError :=
  if f.isAnswer then .store (.write path.toText f) else .file f

theorem carry_putText (path : Path) (content : String) (time : Float) (w : Surroundings σ) :
    carry calls (putText path content) time w
      = ⟨.done (match (w.files.write path (Utf8.encode content)).2 with
          | .ok _ => .ok ⟨⟩
          | .error f => .error (refused path f)),
        time + 0.0, { w with files := (w.files.write path (Utf8.encode content)).1 }⟩ := by
  change Plan.advance (Surroundings.effects calls) (.act (.write path (Utf8.encode content)) _)
    time w = _
  rw [Plan.advance]
  simp only [Surroundings.effects, Surroundings.answerEffect]
  cases (w.files.write path (Utf8.encode content)).2 <;> rfl

theorem carry_putText_ok {path : Path} {content : String} {files : FileTree}
    (h : w.files.write path (Utf8.encode content) = (files, .ok ())) (time : Float) :
    carry calls (putText path content) time w
      = ⟨.done (.ok ⟨⟩), time + 0.0, { w with files }⟩ := by
  rw [carry_putText, h]

theorem carry_putText_error {path : Path} {content : String} {files : FileTree} {f : FileFault}
    (h : w.files.write path (Utf8.encode content) = (files, .error f)) (time : Float) :
    carry calls (putText path content) time w
      = ⟨.done (.error (refused path f)), time + 0.0, { w with files }⟩ := by
  rw [carry_putText, h]

def unitWrites (s : Output.Store) (content : SourceUnit → String)
    (units : List (SourceUnit × Placement)) : List (Path × Bytes) :=
  units.map fun u => (s.pathFor u.2, Utf8.encode (content u.1))

/-- The files of units are written one after another, up to the first that is refused. -/
theorem exists_carry_writeUnitFiles {r : Runner} {s : Output.Store} {sourceFile : String}
    {content : SourceUnit → String} {units : List (SourceUnit × Placement)}
    (hcontent : ∀ u ∈ units, s.unitContent r.parse sourceFile u.1 = .ok (content u.1))
    (calls : Plan.Handler Call σ) (time : Float) (w : Surroundings σ) :
    ∃ outcome stop, carry calls (r.writeUnitFiles s sourceFile units) time w
        = ⟨.done outcome, stop,
          { w with files := (w.files.writeAll (unitWrites s content units)).1 }⟩ ∧
      ((w.files.writeAll (unitWrites s content units)).2 = .ok () →
        outcome = .ok (units.map fun u => s.pathFor u.2)) ∧
      ∀ path f, (w.files.writeAll (unitWrites s content units)).2 = .error (path, f) →
        outcome = .error (refused path f) := by
  induction units generalizing time w with
  | nil => exact ⟨.ok [], time, rfl, fun _ => rfl, nofun⟩
  | cons ue rest ih =>
      obtain ⟨u, e⟩ := ue
      obtain ⟨hu, hrest⟩ := List.forall_mem_cons.mp hcontent
      have hwrites : unitWrites s content ((u, e) :: rest)
          = (s.pathFor e, Utf8.encode (content u)) :: unitWrites s content rest := rfl
      rw [writeUnitFiles, carry_bind_ok (carry_of_ok .tree hu time w), hwrites]
      rcases hwrite : w.files.write (s.pathFor e) (Utf8.encode (content u)) with ⟨files, f | _⟩
      · rw [FileTree.writeAll_cons_of_error hwrite,
          carry_bind_error (carry_putText_error hwrite time)]
        refine ⟨_, _, rfl, nofun, ?_⟩
        rintro path f ⟨⟩
        rfl
      · rw [FileTree.writeAll_cons_of_ok hwrite, carry_bind_ok (carry_putText_ok hwrite time)]
        obtain ⟨outcome, stop, hcarry, hok, herror⟩ := ih hrest (time + 0.0) { w with files }
        cases outcome with
        | ok paths =>
            refine ⟨_, _, carry_bind_ok hcarry _, ?_, ?_⟩
            · intro h
              obtain rfl := Except.ok.inj (hok h)
              rfl
            · intro path f h
              cases herror path f h
        | error e =>
            refine ⟨_, _, carry_bind_error hcarry _, ?_, ?_⟩
            · intro h
              cases hok h
            · intro path f h
              obtain rfl := Except.error.inj (herror path f h)
              rfl

end Dissect.Runner
