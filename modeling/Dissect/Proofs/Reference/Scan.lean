import Dissect.Proofs.Outcome
import Dissect.Proofs.Syntax.Nodes
import Dissect.Reference.Scan
import Mathlib.Data.List.Basic
import Mathlib.Data.List.Pairwise

namespace Dissect.Reference

open Syntax Text

/-- The node around `t` declares a name, and `t` has the range of that name. -/
def IsDeclaredName (parent : Option Tree) (t : Tree) : Prop :=
  ∃ p name, parent = some p ∧ declaresName p.label.type = true ∧ p.child? "name" = some name ∧
    name.label.start = t.label.start ∧ name.label.stop = t.label.stop

theorem isDeclaration_iff {parent : Option Tree} {t : Tree} :
    isDeclaration parent t = true ↔ IsDeclaredName parent t := by
  cases parent with
  | none =>
      constructor
      · nofun
      · rintro ⟨p, name, ⟨⟩, -⟩
  | some p =>
      rw [isDeclaration, Bool.and_eq_true, Option.any_eq_true]
      constructor
      · rintro ⟨hp, name, hname, hrange⟩
        rw [Bool.and_eq_true, beq_iff_eq, beq_iff_eq] at hrange
        exact ⟨p, name, rfl, hp, hname, hrange⟩
      · rintro ⟨p, name, ⟨⟩, hp, hname, hstart, hstop⟩
        refine ⟨hp, name, hname, ?_⟩
        rw [hstart, hstop, beq_self_eq_true, beq_self_eq_true, Bool.and_self]

/-- The node spells a name and is not there to declare it. -/
def Refers (parent : Option Tree) (t : Tree) : Prop :=
  refersToName t.label.type = true ∧ ¬ IsDeclaredName parent t

theorem isReference_iff {parent : Option Tree} {t : Tree} :
    isReference parent t = true ↔ Refers parent t := by
  rw [isReference, Bool.and_eq_true, Bool.not_eq_true', ← Bool.not_eq_true, isDeclaration_iff]
  rfl

instance (parent : Option Tree) (t : Tree) : Decidable (Refers parent t) :=
  decidable_of_iff _ isReference_iff

/-- Where the children of a node do not overlap, a declared name that is not empty is the name child
itself. -/
theorem isDeclaredName_iff_of_nested {p t : Tree} (hp : p.Nested) (ht : t ∈ p.children)
    (hne : t.label.start < t.label.stop) :
    IsDeclaredName (some p) t ↔ declaresName p.label.type = true ∧ p.child? "name" = some t := by
  constructor
  · rintro ⟨p, name, ⟨⟩, hdeclares, hname, hstart, hstop⟩
    let Apart (a b : Tree) : Prop :=
      a = b ∨ a.label.stop ≤ b.label.start ∨ b.label.stop ≤ a.label.start
    have : Std.Symm Apart := ⟨fun a b h => h.imp Eq.symm Or.symm⟩
    have hpairwise : p.children.Pairwise Apart :=
      (hp p p.self_mem_nodes).2.2.imp fun h => .inr (.inl h)
    have hapart : Apart name t := hpairwise.forall_of_forall (fun a _ => .inl rfl)
      (Tree.mem_children_of_child? hname) ht
    rcases hapart with rfl | hbefore | hafter
    · exact ⟨hdeclares, hname⟩
    · omega
    · omega
  · rintro ⟨hdeclares, hname⟩
    exact ⟨p, t, rfl, hdeclares, hname, rfl, rfl⟩

def referencesFrom (around : List Tree) (t : Tree) : List Tree :=
  ((t.placed around).filter fun v => Refers v.1.head? v.2).map Prod.snd

theorem referencesFrom_eq (around : List Tree) (t : Tree) :
    referencesFrom around t = (if Refers around.head? t then [t] else [])
      ++ t.children.flatMap (referencesFrom (t :: around)) := by
  rw [referencesFrom, Tree.placed_eq_cons, Tree.placedOf_eq_flatMap, List.filter_cons]
  simp only [decide_eq_true_eq]
  split <;> simp only [List.map_cons, List.filter_flatMap, List.map_flatMap] <;> rfl

theorem referencesFrom_congr {around around' : List Tree} (h : around.head? = around'.head?)
    (t : Tree) : referencesFrom around t = referencesFrom around' t := by
  induction t using Tree.inductionOnChildren generalizing around around' with
  | step t ih =>
      rw [referencesFrom_eq, referencesFrom_eq around', h]
      exact congrArg _ (List.flatMap_congr fun c hc => ih c hc rfl)

def referencesOf (work : List (Option Tree × Tree)) : List Tree :=
  work.flatMap fun v => referencesFrom v.1.toList v.2

/-- The references at a node, then those below it, then those at the nodes after it. -/
theorem referencesOf_cons (parent : Option Tree) (t : Tree) (work : List (Option Tree × Tree)) :
    referencesOf ((parent, t) :: work) = (if Refers parent t then [t] else [])
      ++ referencesOf ((t.children.map fun c => (some t, c)) ++ work) := by
  have hhead : parent.toList.head? = parent := by
    cases parent <;> rfl
  have hbelow : t.children.flatMap (referencesFrom (t :: parent.toList))
      = (t.children.map fun c => (some t, c)).flatMap fun v => referencesFrom v.1.toList v.2 := by
    rw [List.flatMap_map]
    refine List.flatMap_congr fun c _ => ?_
    apply referencesFrom_congr
    rfl
  rw [referencesOf, List.flatMap_cons, referencesFrom_eq, hhead, hbelow, referencesOf,
    List.flatMap_append, List.append_assoc]

/-- The scan gives the texts of the references, in one go and with the fault of the first that has
none. -/
theorem scanOnto_eq (source : Bytes) (found : Array String) (work : List (Option Tree × Tree)) :
    scanOnto source found work = ((referencesOf work).mapM (Tree.text source)).map
      fun names => found ++ names.toArray := by
  fun_induction scanOnto source found work with
  | case1 found => exact congrArg Except.ok Array.append_empty.symm
  | case2 found parent t work href f hf =>
      rw [referencesOf_cons, if_pos (isReference_iff.mp href), List.singleton_append,
        List.mapM_cons, hf]
      rfl
  | case3 found parent t work next href name hname ih =>
      rw [ih, referencesOf_cons, if_pos (isReference_iff.mp href), List.singleton_append,
        List.mapM_cons, hname]
      cases (referencesOf next).mapM (Tree.text source) with
      | error f => rfl
      | ok names => exact congrArg Except.ok (by simp)
  | case4 found parent t work next href ih =>
      rw [ih, referencesOf_cons, if_neg (fun h => href (isReference_iff.mpr h)), List.nil_append]

def referenceNodes (parse : Parser) (u : SourceUnit) : List Tree :=
  ((parse (scannedSource u)).map (referencesFrom [])).getD []

def spelling (u : SourceUnit) (t : Tree) : Option String := (t.text (scannedSource u)).toOption

/-- The unit has a tree, and its references have texts. -/
def Readable (parse : Parser) (u : SourceUnit) : Prop :=
  (parse (scannedSource u)).isSome = true ∧
    ∀ t ∈ referenceNodes parse u, ∃ name, t.text (scannedSource u) = .ok name

instance (parse : Parser) (u : SourceUnit) : Decidable (Readable parse u) :=
  inferInstanceAs (Decidable (_ ∧ ∀ t ∈ _, _))

theorem references_eq_ok_iff {parse : Parser} {u : SourceUnit} {names : List String} :
    references parse u = .ok names
      ↔ Readable parse u ∧ names = (referenceNodes parse u).filterMap (spelling u) := by
  rw [Readable, referenceNodes, references]
  cases hroot : parse (scannedSource u) with
  | none =>
      constructor
      · nofun
      · rintro ⟨⟨⟨⟩, -⟩, -⟩
  | some root =>
      have hscan : scanOnto (scannedSource u) #[] [(none, root)]
          = ((referencesFrom [] root).mapM (Tree.text (scannedSource u))).map List.toArray := by
        rw [scanOnto_eq, referencesOf, List.flatMap_singleton]
        simp only [Array.empty_append]
        rfl
      simp only [hscan, Option.map_some, Option.getD_some, Option.isSome_some, true_and]
      refine Iff.trans ?_ (mapM_eq_ok_iff (f := Tree.text (scannedSource u)))
      cases (referencesFrom [] root).mapM (Tree.text (scannedSource u)) <;> simp [Except.map]

end Dissect.Reference
