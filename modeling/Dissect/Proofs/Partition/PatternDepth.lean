import Dissect.Proofs.Partition.Preorder
import Dissect.Proofs.Text.Boundaries

/-!
How deep patterns stand inside one another. The walk over a tree goes to any depth, but the names of
a declaration are looked for by a recursion over its patterns, which has room for so many of them.
-/

namespace Dissect.Partition

open Syntax Text

variable {α β : Type} {p q : Prop} {source : Bytes} {t : Tree}

mutual

/-- How many nodes, each inside the one before, are looked into for the names that a node binds. -/
def patternDepth : Tree → Nat
  | .node label children =>
      if bindsName label.type then 1
      else if hasDefault label.type then depthInField "left" children + 1
      else if label.type == "pair_pattern" then depthInField "value" children + 1
      else depthInNamed children + 1

def depthInField (field : String) : List Tree → Nat
  | [] => 0
  | t :: rest =>
      if t.label.field == some field then patternDepth t else depthInField field rest

def depthInNamed : List Tree → Nat
  | [] => 0
  | t :: rest =>
      if t.label.named then max (patternDepth t) (depthInNamed rest) else depthInNamed rest

end

/-- There is room for the patterns of the declarators among several nodes. -/
def HasRoom (ts : List Tree) : Prop :=
  ∀ t ∈ ts, t.label.type = "variable_declarator" →
    ∀ name ∈ t.child? "name", patternDepth name ≤ nestingLimit

def Shallow (root : Tree) : Prop :=
  ∀ t ∈ root.nodes, (unitRule? t.label.type).map Prod.snd = some .declarators → HasRoom t.children

instance (ts : List Tree) : Decidable (HasRoom ts) := inferInstanceAs (Decidable (∀ t ∈ ts, _))

instance (root : Tree) : Decidable (Shallow root) :=
  inferInstanceAs (Decidable (∀ t ∈ root.nodes, _))

/-- The text of every node can be read. -/
def Legible (source : Bytes) (t : Tree) : Prop :=
  ∀ v ∈ t.nodes, ∃ text, v.text source = .ok text

theorem Legible.child {c : Tree} (h : Legible source t) (hc : c ∈ t.children) : Legible source c :=
  fun v hv => h v (Tree.mem_nodes_of_child hc hv)

theorem legible_of_ascii {text : String} (h : text.toList.all (·.val ≤ 127)) (t : Tree) :
    Legible (Utf8.encode text) t := by
  intro v _
  have hascii : ∀ c ∈ text.toList, c.val ≤ 127 :=
    fun c hc => of_decide_eq_true (List.all_eq_true.mp h c hc)
  obtain ⟨s, hs⟩ := Utf8.exists_slice_of_ascii hascii v.label.start v.label.stop
  exact ⟨s, Utf8.decode_eq_ok_iff.mpr hs⟩

/-- The computation succeeds if the condition holds, and else it fails for want of room. -/
structure OkIffRoom (p : Prop) (x : Except NameFault α) : Prop where
  ok : p → ∃ a, x = .ok a
  tooDeep : ¬ p → x = .error .tooDeep

namespace OkIffRoom

variable {x : Except NameFault α}

theorem of_ok (h : ∃ a, x = .ok a) : OkIffRoom True x :=
  ⟨fun _ => h, fun hnot => absurd trivial hnot⟩

theorem congr (h : OkIffRoom p x) (hiff : p ↔ q) : OkIffRoom q x :=
  ⟨fun hq => h.ok (hiff.mpr hq), fun hq => h.tooDeep fun hp => hq (hiff.mp hp)⟩

theorem bind {f : α → Except NameFault β} (hx : OkIffRoom p x)
    (hf : ∀ a, x = .ok a → OkIffRoom q (f a)) : OkIffRoom (p ∧ q) (x >>= f) where
  ok h := by
    obtain ⟨a, ha⟩ := hx.ok h.1
    obtain ⟨b, hb⟩ := (hf a ha).ok h.2
    exact ⟨b, bind_eq_ok_iff.mpr ⟨a, ha, hb⟩⟩
  tooDeep h := by
    by_cases hp : p
    · obtain ⟨a, ha⟩ := hx.ok hp
      rw [ha]
      exact (hf a ha).tooDeep fun hq => h ⟨hp, hq⟩
    · rw [hx.tooDeep hp]
      rfl

theorem bind_ok (hx : OkIffRoom p x) {f : α → Except NameFault β} (hf : ∀ a, ∃ b, f a = .ok b) :
    OkIffRoom p (x >>= f) :=
  (hx.bind fun a _ => of_ok (hf a)).congr (and_iff_left trivial)

theorem map (hx : OkIffRoom p x) (f : α → β) : OkIffRoom p (x.map f) :=
  hx.bind_ok fun a => ⟨f a, rfl⟩

end OkIffRoom

theorem okIffRoom_boundInField {room : Nat} {field : String} {ts : List Tree}
    (h : ∀ t ∈ ts, OkIffRoom (patternDepth t ≤ room) (boundNames source room t)) :
    OkIffRoom (depthInField field ts ≤ room) (boundInField source field room ts) := by
  induction ts with
  | nil => exact (OkIffRoom.of_ok ⟨[], rfl⟩).congr (iff_of_true trivial (Nat.zero_le room))
  | cons t rest ih =>
      obtain ⟨ht, hrest⟩ := List.forall_mem_cons.mp h
      rw [boundInField, depthInField]
      split
      · exact ht
      · exact ih hrest

theorem okIffRoom_boundInNamed {room : Nat} {ts : List Tree}
    (h : ∀ t ∈ ts, OkIffRoom (patternDepth t ≤ room) (boundNames source room t)) :
    OkIffRoom (depthInNamed ts ≤ room) (boundInNamed source room ts) := by
  induction ts with
  | nil => exact (OkIffRoom.of_ok ⟨[], rfl⟩).congr (iff_of_true trivial (Nat.zero_le room))
  | cons t rest ih =>
      obtain ⟨ht, hrest⟩ := List.forall_mem_cons.mp h
      rw [boundInNamed, depthInNamed]
      split
      · rw [Nat.max_le]
        exact ht.bind fun names _ => (ih hrest).bind_ok fun _ => ⟨_, rfl⟩
      · exact ih hrest

theorem exists_nameText (h : Legible source t) : ∃ text, nameText source t = .ok text := by
  obtain ⟨text, htext⟩ := h t t.self_mem_nodes
  exact ⟨text, nameText_eq_ok_iff.mpr htext⟩

theorem okIffRoom_boundNames (h : Legible source t) (room : Nat) :
    OkIffRoom (patternDepth t ≤ room) (boundNames source room t) := by
  induction t using Tree.inductionOnChildren generalizing room with
  | step t ih =>
      have hbelow : ∀ room, ∀ c ∈ t.children,
          OkIffRoom (patternDepth c ≤ room) (boundNames source room c) :=
        fun room c hc => ih c hc (h.child hc) room
      have hname := exists_nameText h
      obtain ⟨label, cs⟩ := t
      cases room with
      | zero =>
          have hdepth : ¬ patternDepth (.node label cs) ≤ 0 := by
            rw [patternDepth]
            split_ifs <;> omega
          exact ⟨fun hle => absurd hle hdepth, fun _ => rfl⟩
      | succ room =>
          rw [boundNames, patternDepth]
          split
          · have hfound := (OkIffRoom.of_ok hname).bind_ok fun name => ⟨[name], rfl⟩
            exact hfound.congr (iff_of_true trivial (Nat.succ_pos room))
          · split
            · exact (okIffRoom_boundInField (hbelow room)).congr Nat.succ_le_succ_iff.symm
            · split
              · exact (okIffRoom_boundInField (hbelow room)).congr Nat.succ_le_succ_iff.symm
              · exact (okIffRoom_boundInNamed (hbelow room)).congr Nat.succ_le_succ_iff.symm

theorem okIffRoom_declaratorNames {ts : List Tree} (h : ∀ t ∈ ts, Legible source t) :
    OkIffRoom (HasRoom ts) (declaratorNames source ts) := by
  induction ts with
  | nil => exact (OkIffRoom.of_ok ⟨[], rfl⟩).congr (iff_of_true trivial nofun)
  | cons t rest ih =>
      obtain ⟨ht, hrest⟩ := List.forall_mem_cons.mp h
      rw [declaratorNames, HasRoom, List.forall_mem_cons]
      split
      · rename_i name htype hname
        have hroom :=
          okIffRoom_boundNames (ht.child (Tree.mem_children_of_child? hname)) nestingLimit
        have hboth := hroom.bind fun names _ => (ih hrest).bind_ok fun more => ⟨names ++ more, rfl⟩
        refine hboth.congr (and_congr_left' ?_)
        simp [beq_iff_eq.mp htype, hname]
      · rename_i hother
        refine (ih hrest).congr ⟨fun hroom => ⟨?_, hroom⟩, fun hroom => hroom.2⟩
        intro htype name hname
        exact absurd hname (hother name (beq_iff_eq.mpr htype))

theorem exists_trimmedField (h : Legible source t) :
    ∃ own, trimmedField source "name" t = .ok own := by
  rw [trimmedField]
  cases hchild : t.child? "name" with
  | none => exact ⟨none, rfl⟩
  | some child =>
      dsimp only
      split
      · exact ⟨none, rfl⟩
      · obtain ⟨text, htext⟩ := exists_nameText (h.child (Tree.mem_children_of_child? hchild))
        exact ⟨_, bind_eq_ok_iff.mpr ⟨text, htext, rfl⟩⟩

theorem okIffRoom_unitName (h : Legible source t) (kind : UnitKind) (parentName : Option String)
    (naming : Naming) :
    OkIffRoom (naming = .declarators → HasRoom t.children)
      (unitName source kind parentName t naming) := by
  cases naming with
  | declared =>
      refine (OkIffRoom.of_ok ?_).congr (iff_of_true trivial nofun)
      obtain ⟨own, hown⟩ := exists_trimmedField h
      cases own <;> exact ⟨_, bind_eq_ok_iff.mpr ⟨_, hown, rfl⟩⟩
  | declarators =>
      have hnames := okIffRoom_declaratorNames fun c hc => h.child hc
      refine (hnames.bind_ok fun names => ?_).congr (by simp)
      cases names <;> exact ⟨_, rfl⟩
  | statement => exact (OkIffRoom.of_ok ⟨_, rfl⟩).congr (iff_of_true trivial nofun)
  | arrow =>
      refine (OkIffRoom.of_ok ?_).congr (iff_of_true trivial nofun)
      cases parentName <;> exact ⟨_, rfl⟩

theorem okIffRoom_visit (h : Legible source t) (parentName : Option String) (depth : Nat) :
    OkIffRoom ((unitRule? t.label.type).map Prod.snd = some .declarators → HasRoom t.children)
      (visit source ⟨t, parentName, depth⟩) := by
  rw [visit]
  dsimp only
  cases unitRule? t.label.type with
  | none =>
      have hown := OkIffRoom.of_ok (exists_trimmedField h)
      exact (hown.bind_ok fun _ => ⟨_, rfl⟩).congr (by simp)
  | some rule =>
      have hname := okIffRoom_unitName h rule.1 parentName rule.2
      exact (hname.bind_ok fun _ => ⟨_, rfl⟩).congr (by simp)

theorem shallow_iff : Shallow t ↔
    ((unitRule? t.label.type).map Prod.snd = some .declarators → HasRoom t.children) ∧
      ∀ c ∈ t.children, Shallow c := by
  simp only [Shallow]
  rw [Tree.nodes_eq_cons, List.forall_mem_cons, List.forall_mem_flatMap]

theorem okIffRoom_findings (h : Legible source t) (parentName : Option String) (depth : Nat) :
    OkIffRoom (Shallow t) (findings source parentName depth t) := by
  induction t using Tree.inductionOnChildren generalizing parentName depth with
  | step t ih =>
      have hbelow : ∀ parentName depth, ∀ ts, (∀ c ∈ ts, c ∈ t.children) →
          OkIffRoom (∀ c ∈ ts, Shallow c) (findingsOf source parentName depth ts) := by
        intro parentName depth ts hts
        induction ts with
        | nil => exact (OkIffRoom.of_ok ⟨[], rfl⟩).congr (iff_of_true trivial nofun)
        | cons c rest ihRest =>
            obtain ⟨hc, hrest⟩ := List.forall_mem_cons.mp hts
            rw [List.forall_mem_cons, findingsOf_cons]
            exact (ih c hc (h.child hc) parentName depth).bind fun ds _ => (ihRest hrest).map _
      rw [findings_eq_bind, shallow_iff]
      refine (okIffRoom_visit h parentName depth).bind fun v _ => ?_
      exact (hbelow v.2.1 v.2.2 t.children fun c hc => hc).map _

/-- The walk over a tree whose texts can be read ends. If there is room for all patterns it finds
the units of the tree in pre-order, and if not it fails. -/
theorem traverse_describes_or_tooDeep {root : Tree} (h : Legible source root) :
    (Shallow root → ∃ found, traverse source root = .ok found ∧
      Describe source (root.placed []) found ∧ (root.placed []).map Prod.snd = root.nodes) ∧
    (¬ Shallow root → traverse source root = .error .tooDeep) := by
  have hroom := okIffRoom_findings h none 0
  rw [traverse_eq_findings]
  refine ⟨fun hshallow => ?_, hroom.tooDeep⟩
  obtain ⟨found, hfound⟩ := hroom.ok hshallow
  exact ⟨found, hfound, describe_of_findings hfound .none, Tree.map_snd_placed [] root⟩

def arrowInMethod : Tree :=
  .node ⟨"program", true, false, false, 0, 25, none⟩
    [.node ⟨"class_declaration", true, false, false, 0, 25, none⟩
      [.node ⟨"identifier", true, false, false, 6, 7, some "name"⟩ [],
        .node ⟨"class_body", true, false, false, 7, 25, none⟩
          [.node ⟨"method_definition", true, false, false, 8, 24, none⟩
            [.node ⟨"property_identifier", true, false, false, 8, 9, some "name"⟩ [],
              .node ⟨"formal_parameters", true, false, false, 9, 11, some "parameters"⟩ [],
              .node ⟨"statement_block", true, false, false, 11, 24, none⟩
                [.node ⟨"lexical_declaration", true, false, false, 12, 23, none⟩
                  [.node ⟨"variable_declarator", true, false, false, 16, 23, none⟩
                    [.node ⟨"identifier", true, false, false, 16, 17, some "name"⟩ [],
                      .node ⟨"arrow_function", true, false, false, 18, 23, some "value"⟩
                        [.node ⟨"formal_parameters", true, false, false, 18, 20,
                            some "parameters"⟩ [],
                          .node ⟨"number", true, false, false, 22, 23, none⟩ []]]]]]]]]

theorem traverse_arrowInMethod_describes :
    let source := Utf8.encode "class A{m(){let f=()=>1}}"
    Legible source arrowInMethod ∧ Shallow arrowInMethod ∧
      ∃ found, traverse source arrowInMethod = .ok found ∧
        found.map (fun d => (d.name, d.parentName, d.depth)) = [("A", none, 0), ("m", some "A", 1),
          ("f", some "m", 2), ("f_arrow", some "f", 3)] ∧
        Describe source (arrowInMethod.placed []) found ∧
        (arrowInMethod.placed []).map Prod.snd = arrowInMethod.nodes := by
  intro source
  have hlegible : Legible source arrowInMethod := legible_of_ascii (by decide) arrowInMethod
  have hshallow : Shallow arrowInMethod := by decide +kernel
  have hnames : (findings source none 0 arrowInMethod).map
      (List.map fun d => (d.name, d.parentName, d.depth)) = .ok [("A", none, 0),
        ("m", some "A", 1), ("f", some "m", 2), ("f_arrow", some "f", 3)] := by
    decide +kernel
  obtain ⟨found, hfound, hdescribe⟩ := (traverse_describes_or_tooDeep hlegible).1 hshallow
  rw [← traverse_eq_findings, hfound] at hnames
  exact ⟨hlegible, hshallow, found, hfound, Except.ok.inj hnames, hdescribe⟩

def bracketed (field : Option String) (start : Nat) : Nat → Tree
  | 0 => .node ⟨"identifier", true, false, false, start, start + 1, field⟩ []
  | n + 1 => .node ⟨"array_pattern", true, false, false, start, start + 2 * n + 3, field⟩
      [.node ⟨"[", false, false, false, start, start + 1, none⟩ [],
        bracketed none (start + 1) n,
        .node ⟨"]", false, false, false, start + 2 * n + 2, start + 2 * n + 3, none⟩ []]

theorem depthInNamed_cons_of_named (h : t.label.named = true) (ts : List Tree) :
    depthInNamed (t :: ts) = max (patternDepth t) (depthInNamed ts) := by
  rw [depthInNamed, if_pos h]

theorem depthInNamed_cons_of_unnamed (h : t.label.named = false) (ts : List Tree) :
    depthInNamed (t :: ts) = depthInNamed ts := by
  rw [depthInNamed, if_neg (ne_true_of_eq_false h)]

theorem patternDepth_bracketed (field : Option String) (start n : Nat) :
    patternDepth (bracketed field start n) = n + 1 := by
  induction n generalizing field start with
  | zero => rfl
  | succ n ih =>
      have hnamed : (bracketed none (start + 1) n).label.named = true := by cases n <;> rfl
      have hparts : patternDepth (bracketed field start (n + 1)) = depthInNamed
          (bracketed field start (n + 1)).children + 1 := rfl
      rw [hparts, bracketed, Tree.children, depthInNamed_cons_of_unnamed rfl,
        depthInNamed_cons_of_named hnamed, depthInNamed_cons_of_unnamed rfl, depthInNamed, ih,
        Nat.max_zero]

/-- The source `var [a] = x;` with so many brackets around the name, and its tree. -/
def bracketedText (n : Nat) : String :=
  "var " ++ String.ofList (List.replicate n '[') ++ "a" ++ String.ofList (List.replicate n ']')
    ++ " = x;"

def bracketedDeclarator (n : Nat) : Tree :=
  .node ⟨"variable_declarator", true, false, false, 4, 2 * n + 9, none⟩
    [bracketed (some "name") 4 n,
      .node ⟨"=", false, false, false, 2 * n + 6, 2 * n + 7, none⟩ [],
      .node ⟨"identifier", true, false, false, 2 * n + 8, 2 * n + 9, some "value"⟩ []]

def bracketedDeclaration (n : Nat) : Tree :=
  .node ⟨"variable_declaration", true, false, false, 0, 2 * n + 10, none⟩
    [.node ⟨"var", false, false, false, 0, 3, none⟩ [], bracketedDeclarator n,
      .node ⟨";", false, false, false, 2 * n + 9, 2 * n + 10, none⟩ []]

def bracketedProgram (n : Nat) : Tree :=
  .node ⟨"program", true, false, false, 0, 2 * n + 10, none⟩ [bracketedDeclaration n]

theorem not_shallow_bracketedProgram {n : Nat} (h : nestingLimit ≤ n) :
    ¬ Shallow (bracketedProgram n) := by
  intro hshallow
  have hnode : bracketedDeclaration n ∈ (bracketedProgram n).nodes :=
    Tree.mem_nodes_of_child List.mem_cons_self (bracketedDeclaration n).self_mem_nodes
  have hdeclarator : bracketedDeclarator n ∈ (bracketedDeclaration n).children :=
    List.mem_cons_of_mem _ List.mem_cons_self
  have hname : (bracketedDeclarator n).child? "name" = some (bracketed (some "name") 4 n) :=
    List.find?_cons_of_pos (by cases n <;> rfl)
  have hroom := hshallow _ hnode rfl _ hdeclarator rfl _ hname
  rw [patternDepth_bracketed] at hroom
  omega

theorem ascii_bracketedText (n : Nat) : (bracketedText n).toList.all (·.val ≤ 127) := by
  have hbrackets : ∀ b : Char, b.val ≤ 127 → (List.replicate n b).all (·.val ≤ 127) := by
    intro b hb
    refine List.all_eq_true.mpr fun c hc => decide_eq_true ?_
    rwa [List.eq_of_mem_replicate hc]
  simp only [bracketedText, String.toList_append, String.toList_ofList, List.all_append,
    Bool.and_eq_true]
  exact ⟨⟨⟨⟨by decide, hbrackets '[' (by decide)⟩, by decide⟩, hbrackets ']' (by decide)⟩,
    by decide⟩

/-- A name in too many brackets: all texts of the tree can be read, and the walk fails. -/
theorem traverse_bracketed_tooDeep :
    let source := Utf8.encode (bracketedText 1500)
    Legible source (bracketedProgram 1500) ∧
      traverse source (bracketedProgram 1500) = .error .tooDeep := by
  intro source
  have hlegible := legible_of_ascii (ascii_bracketedText 1500) (bracketedProgram 1500)
  refine ⟨hlegible, (traverse_describes_or_tooDeep hlegible).2 ?_⟩
  exact not_shallow_bracketedProgram (by decide)

end Dissect.Partition
