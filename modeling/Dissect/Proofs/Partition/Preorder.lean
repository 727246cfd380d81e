import Dissect.Proofs.Partition.Findings
import Mathlib.Data.List.Forall2

/-!
What the walk over a syntax tree finds, told by the tree alone: the nodes that are units in
pre-order, each with the units around it counted and named for the nearest node around it that has a
name.
-/

namespace Dissect.Partition

open Syntax Text

def isUnit (t : Tree) : Bool := (unitRule? t.label.type).isSome

/-- The node has a name field, which is no pattern and holds a text of which something is left when
it is trimmed. -/
def FieldName (source : Bytes) (t : Tree) (name : String) : Prop :=
  ∃ child text, t.child? "name" = some child ∧ ¬ child.label.type.endsWith "_pattern" ∧
    child.text source = .ok text ∧ name = trim text ∧ name ≠ ""

def JoinedNames (source : Bytes) (t : Tree) (name : String) : Prop :=
  ∃ names, declaratorNames source t.children = .ok names ∧ names ≠ [] ∧ name = "_".intercalate names

/-- The node has a name for what is below it: a unit of a kind that declares something the name that
it declares, a node that is no unit the name in its field. -/
def HasName (source : Bytes) (t : Tree) (name : String) : Prop :=
  match (unitRule? t.label.type).map Prod.fst with
  | none | some .function | some .method | some .classDecl => FieldName source t name
  | some .variable | some .constant => JoinedNames source t name
  | some .arrowFunction | some .import | some .export | some .base => False

/-- The name of the first of several nodes that has one. -/
inductive NearestName (source : Bytes) : List Tree → Option String → Prop
  | none : NearestName source [] none
  | here {t : Tree} {around : List Tree} {name : String} (h : HasName source t name) :
      NearestName source (t :: around) (some name)
  | further {t : Tree} {around : List Tree} {name? : Option String}
      (h : ∀ name, ¬ HasName source t name) (rest : NearestName source around name?) :
      NearestName source (t :: around) name?

/-- The unit at a node has the name that its kind asks for. -/
def IsNamed (source : Bytes) (t : Tree) (kind : UnitKind) (parentName : Option String)
    (name : String) : Prop :=
  match kind with
  | .function | .method | .classDecl | .variable | .constant =>
      HasName source t name ∨ (∀ other, ¬ HasName source t other) ∧ name = "anonymous"
  | .arrowFunction =>
      (parentName = none ∨ parentName = some "") ∧ name = "anonymous_arrow" ∨
        ∃ parent, parentName = some parent ∧ parent ≠ "" ∧ name = parent ++ "_arrow"
  | .import | .export =>
      let first := t.children.find? fun c => c.label.named && c.label.type != "comment"
      name = kind.text ++ "_" ++ (first.map (·.label.type)).getD "default"
  | .base => False

/-- The finding is that of a node among the nodes around it. -/
structure Finding.Describes (source : Bytes) (around : List Tree) (t : Tree) (d : Finding) : Prop
    extends d.Marks source t where
  depth : d.depth = around.countP isUnit
  parentName : NearestName source around d.parentName
  name : IsNamed source t d.kind d.parentName d.name

/-- The findings are those of the nodes that become units, in order. -/
def Describe (source : Bytes) (nodes : List (List Tree × Tree)) (found : List Finding) : Prop :=
  List.Forall₂ (fun x d => Finding.Describes source x.1 x.2 d) (nodes.filter fun x => isUnit x.2)
    found

variable {source : Bytes} {t : Tree}

theorem nameText_eq_ok_iff {text : String} :
    nameText source t = .ok text ↔ t.text source = .ok text := mapError_eq_ok_iff

theorem fieldName_iff {own : Option String} (h : trimmedField source "name" t = .ok own)
    (name : String) : own = some name ↔ FieldName source t name := by
  rw [trimmedField] at h
  cases hchild : t.child? "name" with
  | none =>
      rw [hchild, Except.ok.injEq] at h
      simp [← h, FieldName, hchild]
  | some child =>
      simp only [hchild] at h
      split at h
      · rename_i hpattern
        rw [Except.ok.injEq] at h
        simp [← h, FieldName, hchild, hpattern]
      · rename_i hpattern
        obtain ⟨text, htext, ⟨⟩⟩ := bind_eq_ok_iff.mp h
        rw [nameText_eq_ok_iff] at htext
        have hfield : FieldName source t name ↔ name = trim text ∧ name ≠ "" := by
          simp [FieldName, hchild, hpattern, htext]
        rw [hfield]
        by_cases hempty : trim text = ""
        · rw [hempty]
          exact ⟨nofun, fun ⟨heq, hne⟩ => absurd heq hne⟩
        · rw [if_neg (by simpa using hempty), Option.some_inj]
          exact ⟨fun heq => ⟨heq.symm, heq ▸ hempty⟩, fun heq => heq.1.symm⟩

theorem joinedNames_iff {names : List String} (h : declaratorNames source t.children = .ok names)
    (name : String) : JoinedNames source t name ↔ names ≠ [] ∧ name = "_".intercalate names := by
  simp [JoinedNames, h]

theorem unitRule?_cases {type : String} {kind : UnitKind} {naming : Naming}
    (h : unitRule? type = some (kind, naming)) :
    (naming = .declared ∧ (kind = .function ∨ kind = .method ∨ kind = .classDecl)) ∨
      (naming = .declarators ∧ (kind = .variable ∨ kind = .constant)) ∨
      (naming = .statement ∧ (kind = .import ∨ kind = .export)) ∨
      naming = .arrow ∧ kind = .arrowFunction := by
  unfold unitRule? at h
  split at h <;> cases h <;> simp

theorem kind_of_declared {type : String} {kind : UnitKind}
    (h : unitRule? type = some (kind, .declared)) :
    kind = .function ∨ kind = .method ∨ kind = .classDecl := by
  simpa using unitRule?_cases h

theorem kind_of_declarators {type : String} {kind : UnitKind}
    (h : unitRule? type = some (kind, .declarators)) : kind = .variable ∨ kind = .constant := by
  simpa using unitRule?_cases h

theorem hasName_iff_fieldName {kind : UnitKind} {name : String}
    (hrule : unitRule? t.label.type = some (kind, .declared)) :
    HasName source t name ↔ FieldName source t name := by
  rcases kind_of_declared hrule with rfl | rfl | rfl <;> simp [HasName, hrule]

theorem hasName_iff_joinedNames {kind : UnitKind} {name : String}
    (hrule : unitRule? t.label.type = some (kind, .declarators)) :
    HasName source t name ↔ JoinedNames source t name := by
  rcases kind_of_declarators hrule with rfl | rfl <;> simp [HasName, hrule]

theorem isNamed_iff_hasName {kind : UnitKind} {naming : Naming} {parentName : Option String}
    {name : String} (hrule : unitRule? t.label.type = some (kind, naming))
    (hnaming : naming = .declared ∨ naming = .declarators) :
    IsNamed source t kind parentName name ↔
      HasName source t name ∨ (∀ other, ¬ HasName source t other) ∧ name = "anonymous" := by
  rcases hnaming with rfl | rfl
  · rcases kind_of_declared hrule with rfl | rfl | rfl <;> rfl
  · rcases kind_of_declarators hrule with rfl | rfl <;> rfl

theorem declaredName_of_unitName {kind : UnitKind} {naming : Naming} {parentName : Option String}
    {name : String} {declared : Bool} (hrule : unitRule? t.label.type = some (kind, naming))
    (hnaming : naming = .declared ∨ naming = .declarators)
    (h : unitName source kind parentName t naming = .ok (name, declared)) :
    ∃ own : Option String, name = own.getD "anonymous" ∧ declared = own.isSome ∧
      ∀ n, own = some n ↔ HasName source t n := by
  rcases hnaming with rfl | rfl
  · obtain ⟨own, hown, hnamed⟩ := bind_eq_ok_iff.mp h
    refine ⟨own, ?_, ?_, fun n => ?_⟩
    · cases own <;> cases hnamed <;> rfl
    · cases own <;> cases hnamed <;> rfl
    · rw [fieldName_iff hown, hasName_iff_fieldName hrule]
  · obtain ⟨names, hnames, hnamed⟩ := bind_eq_ok_iff.mp h
    refine ⟨if names = [] then none else some ("_".intercalate names), ?_, ?_, fun n => ?_⟩
    · cases names <;> cases hnamed <;> rfl
    · cases names <;> cases hnamed <;> rfl
    · rw [hasName_iff_joinedNames hrule, joinedNames_iff hnames]
      cases names <;> simp [eq_comm]

/-- The name of a unit, and whether what is below it goes by this name. -/
theorem isNamed_of_unitName {kind : UnitKind} {naming : Naming} {parentName : Option String}
    {name : String} {declared : Bool} (hrule : unitRule? t.label.type = some (kind, naming))
    (h : unitName source kind parentName t naming = .ok (name, declared)) :
    IsNamed source t kind parentName name ∧
      if declared then HasName source t name else ∀ other, ¬ HasName source t other := by
  by_cases hnaming : naming = .declared ∨ naming = .declarators
  · obtain ⟨own, rfl, rfl, hname⟩ := declaredName_of_unitName hrule hnaming h
    rw [isNamed_iff_hasName hrule hnaming]
    cases own <;> simp [← hname]
  · rcases unitRule?_cases hrule with ⟨rfl, -⟩ | ⟨rfl, -⟩ | ⟨rfl, hkind⟩ | ⟨rfl, rfl⟩
    · exact absurd (.inl rfl) hnaming
    · exact absurd (.inr rfl) hnaming
    · obtain ⟨rfl, rfl⟩ := Prod.mk.inj (Except.ok.inj h)
      refine ⟨?_, ?_⟩
      · rcases hkind with rfl | rfl <;>
          cases hfirst : t.children.find? _ <;> simp [IsNamed, hfirst]
      · rcases hkind with rfl | rfl <;> simp [HasName, hrule]
    · have hnone : ∀ other, ¬ HasName source t other := by simp [HasName, hrule]
      cases parentName with
      | none =>
          obtain ⟨rfl, rfl⟩ := Prod.mk.inj (Except.ok.inj h)
          exact ⟨.inl ⟨.inl rfl, rfl⟩, hnone⟩
      | some parent =>
          obtain ⟨rfl, rfl⟩ := Prod.mk.inj (Except.ok.inj h)
          refine ⟨?_, hnone⟩
          by_cases hempty : parent = ""
          · exact .inl ⟨.inr (by rw [hempty]), by simp [hempty]⟩
          · exact .inr ⟨parent, rfl, hempty, by simp [hempty]⟩

theorem Describe.append {xs ys : List (List Tree × Tree)} {ds es : List Finding}
    (hx : Describe source xs ds) (hy : Describe source ys es) :
    Describe source (xs ++ ys) (ds ++ es) := by
  rw [Describe, List.filter_append]
  exact List.rel_append hx hy

/-- A visit to a node among others of which the nearest name is known. -/
theorem describe_of_visit {around : List Tree} {parentName name : Option String} {below : Nat}
    {found : Option Finding}
    (h : visit source ⟨t, parentName, around.countP isUnit⟩ = .ok (found, name, below))
    (hparent : NearestName source around parentName) :
    below = (t :: around).countP isUnit ∧ NearestName source (t :: around) name ∧
      Describe source [(around, t)] found.toList := by
  rw [visit] at h
  dsimp only at h
  split at h
  · rename_i kind naming hrule
    have hunit : isUnit t = true := by simp [isUnit, hrule]
    obtain ⟨⟨own, declared⟩, hunitName, hvisit⟩ := bind_eq_ok_iff.mp h
    obtain ⟨hnamed, hdeclared⟩ := isNamed_of_unitName hrule hunitName
    cases hvisit
    refine ⟨by simp [hunit], ?_, ?_⟩
    · cases declared with
      | false => exact .further hdeclared hparent
      | true => exact .here hdeclared
    · simp only [Describe, hunit, List.filter_cons, List.filter_nil, if_true,
        Option.toList_some]
      exact .cons ⟨⟨⟨naming, hrule⟩, rfl, rfl, rfl, rfl⟩, rfl, hparent, hnamed⟩ .nil
  · rename_i hrule
    have hunit : isUnit t = false := by simp [isUnit, hrule]
    obtain ⟨own, hown, hvisit⟩ := bind_eq_ok_iff.mp h
    have hname : ∀ name, own = some name ↔ HasName source t name := fun name => by
      rw [fieldName_iff hown]
      simp [HasName, hrule]
    cases hvisit
    refine ⟨by simp [hunit], ?_, by simp [Describe, hunit]⟩
    cases own with
    | none => exact .further (by simp [← hname]) hparent
    | some name => exact .here ((hname name).mp rfl)

theorem describe_of_findings {around : List Tree} {parentName : Option String} {ds : List Finding}
    (h : findings source parentName (around.countP isUnit) t = .ok ds)
    (hparent : NearestName source around parentName) :
    Describe source (t.placed around) ds := by
  induction t using Tree.inductionOnChildren generalizing around parentName ds with
  | step t ih =>
      obtain ⟨found, name, below, es, hvisit, hes, rfl⟩ := exists_of_findings h
      obtain ⟨rfl, hname, hfound⟩ := describe_of_visit hvisit hparent
      have hbelow : ∀ ts, (∀ c ∈ ts, c ∈ t.children) → ∀ {es},
          findingsOf source name ((t :: around).countP isUnit) ts = .ok es →
            Describe source (Tree.placedOf (t :: around) ts) es := by
        intro ts hts
        induction ts with
        | nil =>
            intro es hes
            rw [findingsOf, Except.ok.injEq] at hes
            subst hes
            exact .nil
        | cons c rest ihRest =>
            intro es hes
            obtain ⟨hc, hrest⟩ := List.forall_mem_cons.mp hts
            obtain ⟨ds, fs, hds, hfs, rfl⟩ := exists_of_findingsOf_cons hes
            exact (ih c hc hds hname).append (ihRest hrest hfs)
      rw [Tree.placed_eq_cons]
      exact hfound.append (hbelow t.children (fun c hc => hc) hes)

end Dissect.Partition
