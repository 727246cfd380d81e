import Dissect.Output.UnitFile
import Dissect.Proofs.Partition.Bindings

namespace Dissect.Output

open Syntax Text Dissect.Partition

def endsLine (c : Char) : Bool :=
  c == '\n' || c == '\r' || c == Char.ofNat 0x2028 || c == Char.ofNat 0x2029

def OneLine (text : String) : Prop := ∀ c ∈ text.toList, endsLine c = false

structure IsComment (line : String) : Prop where
  slashes : ∃ rest, line = "//" ++ rest
  oneLine : OneLine line

/-- The text is two comments, an empty line and the code. -/
def Headed (text code : String) : Prop :=
  ∃ first second, IsComment first ∧ IsComment second ∧
    text = first ++ "\n" ++ second ++ "\n" ++ "\n" ++ code

theorem oneLine_append {a b : String} : OneLine (a ++ b) ↔ OneLine a ∧ OneLine b := by
  simp only [OneLine, String.toList_append, List.forall_mem_append]

instance (text : String) : Decidable (OneLine text) :=
  decidable_of_iff (text.toList.all fun c => !endsLine c) (by simp [OneLine])

theorem oneLine_toString (n : Nat) : OneLine (toString n) := by
  intro c hc
  rw [Nat.toString_eq_repr, Nat.toList_repr] at hc
  have hdigit : c.isDigit := Nat.isDigit_of_mem_toDigits (by decide) (by decide) hc
  rw [Bool.eq_false_iff]
  intro hends
  simp only [endsLine, Bool.or_eq_true, beq_iff_eq] at hends
  rcases hends with ((rfl | rfl) | rfl) | rfl <;> revert hdigit <;> decide

theorem oneLine_kind (kind : UnitKind) : OneLine kind.text := by
  cases kind <;> decide

theorem not_mem_of_oneLine {text : String} (h : OneLine text) : '\n' ∉ text.toList :=
  fun hmem => absurd (h '\n' hmem) (by decide)

theorem oneLine_intercalate {names : List String} (h : ∀ name ∈ names, OneLine name) :
    OneLine ("_".intercalate names) := by
  have hseparator : OneLine "_" := by decide
  exact forall_mem_intercalate hseparator h

theorem isComment_titleLine_iff (u : SourceUnit) :
    IsComment ("// " ++ u.kind.text ++ ": " ++ u.name) ↔ OneLine u.name := by
  refine ⟨fun h => (oneLine_append.mp h.oneLine).2, fun h => ⟨?_, ?_⟩⟩
  · refine ⟨" " ++ u.kind.text ++ ": " ++ u.name, ?_⟩
    simp only [← String.append_assoc]
    rfl
  · rw [oneLine_append, oneLine_append, oneLine_append]
    exact ⟨⟨⟨by decide, oneLine_kind u.kind⟩, by decide⟩, h⟩

theorem isComment_linesLine (u : SourceUnit) {file : String} (hfile : OneLine file) :
    IsComment ("// Lines " ++ toString u.startLine ++ "-" ++ toString u.endLine ++ " from "
      ++ file) := by
  refine ⟨⟨" Lines " ++ toString u.startLine ++ "-" ++ toString u.endLine ++ " from " ++ file, ?_⟩,
    ?_⟩
  · simp only [← String.append_assoc]
    rfl
  · simp only [oneLine_append, oneLine_toString, hfile, and_true]
    decide

theorem withHeader_eq (u : SourceUnit) (file : String) :
    withHeader u file = "// " ++ u.kind.text ++ ": " ++ u.name ++ "\n"
      ++ ("// Lines " ++ toString u.startLine ++ "-" ++ toString u.endLine ++ " from " ++ file)
      ++ "\n" ++ "\n" ++ u.code := by
  have hparts : ∀ lines gap, lines = "\n" ++ "// Lines " → gap = "\n" ++ "\n" →
      "// " ++ u.kind.text ++ ": " ++ u.name ++ lines ++ toString u.startLine ++ "-"
          ++ toString u.endLine ++ " from " ++ file ++ gap ++ u.code
        = "// " ++ u.kind.text ++ ": " ++ u.name ++ "\n"
          ++ ("// Lines " ++ toString u.startLine ++ "-" ++ toString u.endLine ++ " from " ++ file)
          ++ "\n" ++ "\n" ++ u.code := by
    rintro _ _ rfl rfl
    simp only [String.append_assoc]
  exact hparts "\n// Lines " "\n\n" (by decide) (by decide)

theorem eq_of_lines {first second code a b : String} (hfirst : '\n' ∉ first.toList)
    (hsecond : '\n' ∉ second.toList)
    (h : first ++ "\n" ++ second ++ "\n" ++ "\n" ++ code = a ++ "\n" ++ b ++ "\n" ++ "\n" ++ code) :
    first = a ∧ second = b := by
  have hchars := congrArg String.toList h
  have hbreak : "\n".toList = ['\n'] := by decide
  simp only [String.toList_append, hbreak, List.append_cancel_right_eq] at hchars
  rw [List.append_assoc, List.append_assoc, List.singleton_append, List.singleton_append] at hchars
  obtain ⟨ha, -, hb⟩ := (List.append_cons_inj_of_notMem hfirst hsecond).mp hchars
  exact ⟨String.toList_inj.mp ha, String.toList_inj.mp hb⟩

/-- The header of a unit is made of comments exactly if its name stands on one line. -/
theorem headed_withHeader_iff {u : SourceUnit} {file : String} (hfile : OneLine file) :
    Headed (withHeader u file) u.code ↔ OneLine u.name := by
  rw [← isComment_titleLine_iff, withHeader_eq]
  refine ⟨?_, fun h => ⟨_, _, h, isComment_linesLine u hfile, rfl⟩⟩
  rintro ⟨first, second, hfirst, hsecond, heq⟩
  obtain ⟨rfl, -⟩ := eq_of_lines (not_mem_of_oneLine hfirst.oneLine)
    (not_mem_of_oneLine hsecond.oneLine) heq.symm
  exact hfirst

def PlainWords (source : Bytes) (root : Tree) : Prop :=
  ∀ v ∈ root.nodes, OneLine v.label.type ∧
    (bindsName v.label.type → ∀ text, v.text source = .ok text → OneLine text)

variable {source : Bytes} {root t : Tree}

theorem oneLine_of_joinedNames (hplain : PlainWords source root) (ht : t ∈ root.nodes)
    {name : String} (h : JoinedNames source t name) : OneLine name := by
  obtain ⟨names, hnames, -, rfl⟩ := h
  refine oneLine_intercalate fun name hname => ?_
  obtain ⟨c, hc, v, hv, hbinds, htext⟩ := exists_node_of_mem_declaratorNames hnames hname
  have hroot : v ∈ root.nodes :=
    Tree.mem_nodes_trans ht (Tree.mem_nodes_of_child hc hv)
  exact (hplain v hroot).2 hbinds name htext

/-- A name that is broken over lines is one in a field. -/
theorem fieldName_of_hasName (hplain : PlainWords source root) (ht : t ∈ root.nodes)
    {name : String} (h : HasName source t name) (hbroken : ¬ OneLine name) :
    FieldName source t name := by
  have hjoined := fun h => hbroken (oneLine_of_joinedNames hplain ht h)
  revert h
  unfold HasName
  split
  · exact id
  · exact id
  · exact id
  · exact id
  · exact fun h => absurd h hjoined
  · exact fun h => absurd h hjoined
  all_goals exact False.elim

theorem exists_hasName_of_nearestName {around : List Tree} {name : String}
    (h : NearestName source around (some name)) : ∃ v ∈ around, HasName source v name := by
  generalize hsome : some name = name? at h
  induction h with
  | none => cases hsome
  | @here t around other hname =>
      obtain rfl : name = other := Option.some.inj hsome
      exact ⟨t, List.mem_cons_self, hname⟩
  | @further t around name? hnone hrest ih =>
      obtain ⟨v, hv, hname⟩ := ih hsome
      exact ⟨v, List.mem_cons_of_mem t hv, hname⟩

/-- The name is that of a function, a method or a class, or that of an arrow function below it. -/
def IsNamedFor (kind : UnitKind) (own name : String) : Prop :=
  (kind = .function ∨ kind = .method ∨ kind = .classDecl) ∧ name = own ∨
    kind = .arrowFunction ∧ name = own ++ "_arrow"

theorem exists_fieldName_of_describes {around : List Tree} {d : Finding}
    (hplain : PlainWords source root) (ht : t ∈ root.nodes) (haround : ∀ w ∈ around, w ∈ root.nodes)
    (hd : d.Describes source around t) (hbroken : ¬ OneLine d.name) :
    ∃ v ∈ root.nodes, ∃ own, FieldName source v own ∧ ¬ OneLine own ∧
      IsNamedFor d.kind own d.name := by
  obtain ⟨naming, hrule⟩ := hd.rule
  have hname := hd.name
  have hdefault : OneLine "anonymous" := by decide
  cases hkind : d.kind <;> rw [hkind] at hname hrule
  case function | method | classDecl =>
    obtain hown | ⟨-, hnone⟩ := hname
    · exact ⟨t, ht, d.name, fieldName_of_hasName hplain ht hown hbroken, hbroken,
        .inl ⟨by simp, rfl⟩⟩
    · exact absurd (hnone ▸ hdefault) hbroken
  case «variable» | constant =>
    obtain hown | ⟨-, hnone⟩ := hname
    · have hjoined : JoinedNames source t d.name := by simpa [HasName, hrule] using hown
      exact absurd (oneLine_of_joinedNames hplain ht hjoined) hbroken
    · exact absurd (hnone ▸ hdefault) hbroken
  case arrowFunction =>
    obtain ⟨-, hnone⟩ | ⟨own, hparent, -, hown⟩ := hname
    · exact absurd (hnone ▸ (by decide : OneLine "anonymous_arrow")) hbroken
    · obtain ⟨v, hv, hparent⟩ := exists_hasName_of_nearestName (hparent ▸ hd.parentName)
      have hparentBroken : ¬ OneLine own := by
        intro honeLine
        rw [hown, oneLine_append] at hbroken
        exact hbroken ⟨honeLine, by decide⟩
      exact ⟨v, haround v hv, own, fieldName_of_hasName hplain (haround v hv) hparent hparentBroken,
        hparentBroken, .inr ⟨rfl, hown⟩⟩
  case «import» | «export» =>
    exfalso
    apply hbroken
    rw [hname, oneLine_append, oneLine_append]
    refine ⟨⟨oneLine_kind _, by decide⟩, ?_⟩
    cases hfirst : t.children.find? _ with
    | none => exact (by decide : OneLine "default")
    | some c =>
        have hc := Tree.mem_nodes_of_child (List.mem_of_find?_eq_some hfirst) c.self_mem_nodes
        exact (hplain c (Tree.mem_nodes_trans ht hc)).1
  case base => exact hname.elim

/-- The file of a unit is two comments, an empty line and the code exactly if the name of the unit
stands on one line, and a name does not only if it is that in the field of a node. -/
theorem split_unit_headed_iff {parse : Parser} {strict : Bool} {file : String} {p : Partition}
    {u : SourceUnit} (hsplit : split parse strict source file = .ok p)
    (hparse : parse source = some root) (hplain : PlainWords source root) (hfile : OneLine file)
    (hu : u ∈ p.units) :
    (Headed (withHeader u file) u.code ↔ OneLine u.name) ∧
      (¬ OneLine u.name → ∃ v ∈ root.nodes, ∃ own, FieldName source v own ∧ ¬ OneLine own ∧
        IsNamedFor u.kind own u.name) := by
  refine ⟨headed_withHeader_iff hfile, fun hbroken => ?_⟩
  rcases exists_node_of_unit hsplit hparse hu with ⟨-, hbase⟩ | ⟨around, t, i, d, ht, rfl, hd⟩
  · exact absurd (hbase ▸ (by decide : OneLine "base")) hbroken
  · obtain ⟨ht, haround⟩ := Tree.mem_nodes_of_mem_placed ht
    exact exists_fieldName_of_describes hplain ht
      (fun w hw => (haround w hw).resolve_left List.not_mem_nil) hd hbroken

theorem fieldName_unique {a b : String} (ha : FieldName source t a) (hb : FieldName source t b) :
    a = b := by
  obtain ⟨c, text, hc, -, htext, rfl, -⟩ := ha
  obtain ⟨c', text', hc', -, htext', rfl, -⟩ := hb
  obtain rfl : c = c' := Option.some.inj (hc.symm.trans hc')
  obtain rfl : text = text' := Except.ok.inj (htext.symm.trans htext')
  rfl

theorem eq_of_isNamed {kind : UnitKind} {parentName : Option String} {own name : String}
    (hrule : unitRule? t.label.type = some (kind, .declared)) (hown : FieldName source t own)
    (hname : IsNamed source t kind parentName name) : name = own := by
  rcases (isNamed_iff_hasName hrule (.inl rfl)).mp hname with hname | ⟨hnone, -⟩
  · exact fieldName_unique ((hasName_iff_fieldName hrule).mp hname) hown
  · exact absurd ((hasName_iff_fieldName hrule).mpr hown) (hnone own)

def templateMethod : Tree :=
  .node ⟨"program", true, false, false, 0, 29, none⟩
    [.node ⟨"class_declaration", true, false, false, 0, 29, none⟩
      [.node ⟨"class", false, false, false, 0, 5, none⟩ [],
        .node ⟨"identifier", true, false, false, 6, 7, some "name"⟩ [],
        .node ⟨"class_body", true, false, false, 8, 29, none⟩
          [.node ⟨"\x7b", false, false, false, 8, 9, none⟩ [],
            .node ⟨"method_definition", true, false, false, 10, 27, none⟩
              [.node ⟨"computed_property_name", true, false, false, 10, 22, some "name"⟩
                  [.node ⟨"[", false, false, false, 10, 11, none⟩ [],
                    .node ⟨"template_string", true, false, false, 11, 21, none⟩
                      [.node ⟨"`", false, false, false, 11, 12, none⟩ [],
                        .node ⟨"string_fragment", true, false, false, 12, 20, none⟩ [],
                        .node ⟨"`", false, false, false, 20, 21, none⟩ []],
                    .node ⟨"]", false, false, false, 21, 22, none⟩ []],
                .node ⟨"formal_parameters", true, false, false, 22, 24, some "parameters"⟩
                  [.node ⟨"(", false, false, false, 22, 23, none⟩ [],
                    .node ⟨")", false, false, false, 23, 24, none⟩ []],
                .node ⟨"statement_block", true, false, false, 25, 27, none⟩
                  [.node ⟨"\x7b", false, false, false, 25, 26, none⟩ [],
                    .node ⟨"\x7d", false, false, false, 26, 27, none⟩ []]],
            .node ⟨"\x7d", false, false, false, 28, 29, none⟩ []]]]

def templateMethodText : String := "class A \x7b [`\nf(); //`]() \x7b\x7d \x7d"

theorem plainWords_templateMethod :
    PlainWords (Utf8.encode templateMethodText) templateMethod := by
  have hwords : ∀ v ∈ templateMethod.nodes, OneLine v.label.type ∧
      (bindsName v.label.type → v.text (Utf8.encode templateMethodText) = .ok "A") := by
    decide +kernel
  refine fun v hv => ⟨(hwords v hv).1, fun hbinds text htext => ?_⟩
  obtain rfl : text = "A" := Except.ok.inj (htext.symm.trans ((hwords v hv).2 hbinds))
  decide

theorem exists_split_templateMethod : ∃ p u,
    split (fun _ => some templateMethod) true (Utf8.encode templateMethodText) "input.js" = .ok p ∧
      u ∈ p.units ∧ u.kind = .method ∧ u.name = "[`\nf(); //`]" := by
  have hok : (findings (Utf8.encode templateMethodText) none 0 templateMethod).isOk := by
    decide +kernel
  obtain ⟨p, hp⟩ := exists_split_of_isOk hok rfl true "input.js"
  obtain ⟨t, ht, hrule, hfield⟩ : ∃ t, (templateMethod.nodes.filter isUnit)[1]? = some t ∧
      unitRule? t.label.type = some (.method, .declared) ∧
      trimmedField (Utf8.encode templateMethodText) "name" t = .ok (some "[`\nf(); //`]") :=
    ⟨_, rfl, rfl, by decide +kernel⟩
  obtain ⟨around, d, hunit, hd⟩ := exists_unit_of_node hp rfl ht
  obtain ⟨naming, hrule'⟩ := hd.rule
  obtain ⟨hkind, rfl⟩ := Prod.mk.inj (Option.some.inj (hrule.symm.trans hrule'))
  refine ⟨p, _, hp, List.mem_of_getElem? hunit, hkind.symm, ?_⟩
  have hname : IsNamed _ t .method d.parentName d.name := hkind ▸ hd.name
  exact eq_of_isNamed hrule ((fieldName_iff hfield _).mp rfl) hname

theorem split_unit_headed_iff_template :
    let source := Utf8.encode templateMethodText
    ∃ p u, split (fun _ => some templateMethod) true source "input.js" = .ok p ∧
      PlainWords source templateMethod ∧ OneLine "input.js" ∧ u ∈ p.units ∧
      (Headed (withHeader u "input.js") u.code ↔ OneLine u.name) ∧
      (¬ OneLine u.name → ∃ v ∈ templateMethod.nodes, ∃ own, FieldName source v own ∧
        ¬ OneLine own ∧ IsNamedFor u.kind own u.name) := by
  obtain ⟨p, u, hp, hu, -, -⟩ := exists_split_templateMethod
  have hfile : OneLine "input.js" := by decide
  exact ⟨p, u, hp, plainWords_templateMethod, hfile, hu,
    split_unit_headed_iff hp rfl plainWords_templateMethod hfile hu⟩

/-- The second line of the file of a unit is code that the unit does not have. -/
theorem exists_split_not_headed :
    let source := Utf8.encode templateMethodText
    ∃ p u, split (fun _ => some templateMethod) true source "input.js" = .ok p ∧ u ∈ p.units ∧
      OneLine "input.js" ∧ ¬ Headed (withHeader u "input.js") u.code ∧
      ∃ rest, withHeader u "input.js" = "// method: [`\nf(); //`]\n" ++ rest := by
  obtain ⟨p, u, hp, hu, hkind, hname⟩ := exists_split_templateMethod
  have hfile : OneLine "input.js" := by decide
  refine ⟨p, u, hp, hu, hfile, ?_, ?_⟩
  · rw [headed_withHeader_iff hfile, hname]
    decide
  · obtain ⟨rest, hrest⟩ : ∃ rest, withHeader u "input.js"
        = "// " ++ u.kind.text ++ ": " ++ u.name ++ "\n" ++ rest := by
      refine ⟨"// Lines " ++ toString u.startLine ++ "-" ++ toString u.endLine ++ " from "
        ++ "input.js" ++ "\n" ++ "\n" ++ u.code, ?_⟩
      rw [withHeader_eq]
      simp only [String.append_assoc]
    have htitle : "// " ++ UnitKind.method.text ++ ": " ++ "[`\nf(); //`]" ++ "\n"
        = "// method: [`\nf(); //`]\n" := by decide
    rw [hkind, hname] at hrest
    exact ⟨rest, hrest.trans (congrArg (· ++ rest) htitle)⟩

end Dissect.Output
