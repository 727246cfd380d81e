import Dissect.Proofs.Partition.Described

/-!
The names of declarations. A declaration binds the names of its patterns, which nest to any depth;
its unit is named for those that the grammar writes as identifiers. The word `undefined`, which has
a node type of its own where it is a part of a pattern, is the one name that is missed.
-/

namespace Dissect

open Text

namespace Syntax

inductive Identifier
  | plain (name : String)
  /-- the word `undefined` as a part of a pattern -/
  | undefined
deriving DecidableEq, Repr

namespace Identifier

def text : Identifier → String
  | plain name => name
  | undefined => "undefined"

def plain? : Identifier → Option String
  | plain name => some name
  | undefined => none

end Identifier

/-- What a declaration binds a value to. Keys and default values bind nothing and are left out. -/
inductive Pattern
  | name (identifier : Identifier)
  | object (members : List Pattern)
  | array (elements : List Pattern)
  | pair (value : Pattern)
  | defaulted (target : Pattern)
  | rest (target : Pattern)

mutual

def Pattern.identifiers : Pattern → List Identifier
  | .name i => [i]
  | .object members => Pattern.identifiersOf members
  | .array elements => Pattern.identifiersOf elements
  | .pair value => value.identifiers
  | .defaulted target => target.identifiers
  | .rest target => target.identifiers

def Pattern.identifiersOf : List Pattern → List Identifier
  | [] => []
  | p :: ps => p.identifiers ++ identifiersOf ps

end

/-- The node stands between the parts of a pattern: a mark of the grammar or a comment. -/
def IsBetween (t : Tree) : Prop :=
  t.label.named = false ∨
    (t.label.type = "comment" ∨ t.label.type = "html_comment") ∧ t.children = []

mutual

/-- The node is that of a pattern; keys and default values are any nodes. -/
inductive Spells (source : Bytes) : Pattern → Tree → Prop
  | identifier {t : Tree} {name : String} (htype : t.label.type = "identifier")
      (htext : t.text source = .ok name) : Spells source (.name (.plain name)) t
  | shorthand {t : Tree} {name : String}
      (htype : t.label.type = "shorthand_property_identifier_pattern")
      (htext : t.text source = .ok name) : Spells source (.name (.plain name)) t
  | undefined {t : Tree} (htype : t.label.type = "undefined") (hchildren : t.children = [])
      (htext : t.text source = .ok "undefined") : Spells source (.name .undefined) t
  | object {t : Tree} {members : List Pattern} (htype : t.label.type = "object_pattern")
      (hmembers : SpellsAll source members t.children) : Spells source (.object members) t
  | array {t : Tree} {elements : List Pattern} (htype : t.label.type = "array_pattern")
      (helements : SpellsAll source elements t.children) : Spells source (.array elements) t
  | pair {t value : Tree} {p : Pattern} (htype : t.label.type = "pair_pattern")
      (hvalue : t.child? "value" = some value) (hp : Spells source p value) :
      Spells source (.pair p) t
  | defaulted {t target : Tree} {p : Pattern}
      (htype : t.label.type = "assignment_pattern" ∨ t.label.type = "object_assignment_pattern")
      (htarget : t.child? "left" = some target) (hp : Spells source p target) :
      Spells source (.defaulted p) t
  | rest {t : Tree} {p : Pattern} (htype : t.label.type = "rest_pattern")
      (hp : SpellsAll source [p] t.children) : Spells source (.rest p) t

/-- The nodes are those of several patterns with others between them. -/
inductive SpellsAll (source : Bytes) : List Pattern → List Tree → Prop
  | nil : SpellsAll source [] []
  | between {t : Tree} {ps : List Pattern} {ts : List Tree} (ht : IsBetween t)
      (hrest : SpellsAll source ps ts) : SpellsAll source ps (t :: ts)
  | cons {t : Tree} {p : Pattern} {ps : List Pattern} {ts : List Tree}
      (hnamed : t.label.named = true) (hp : Spells source p t)
      (hrest : SpellsAll source ps ts) : SpellsAll source (p :: ps) (t :: ts)

end

/-- The declarators among the children of a declaration are for the patterns. -/
inductive Declares (source : Bytes) : List Pattern → List Tree → Prop
  | nil : Declares source [] []
  | other {t : Tree} {ps : List Pattern} {ts : List Tree}
      (htype : t.label.type ≠ "variable_declarator") (hrest : Declares source ps ts) :
      Declares source ps (t :: ts)
  | declarator {t name : Tree} {p : Pattern} {ps : List Pattern} {ts : List Tree}
      (htype : t.label.type = "variable_declarator") (hname : t.child? "name" = some name)
      (hp : Spells source p name) (hrest : Declares source ps ts) :
      Declares source (p :: ps) (t :: ts)

end Syntax

namespace Partition

open Syntax

variable {source : Bytes}

theorem boundInField_eq (source : Bytes) (field : String) (room : Nat) (ts : List Tree) :
    boundInField source field room ts =
      (ts.find? fun t => t.label.field == some field).elim (.ok []) (boundNames source room) := by
  induction ts with
  | nil => rfl
  | cons t ts ih =>
      rw [boundInField, List.find?_cons]
      cases t.label.field == some field with
      | true => rfl
      | false => exact ih

theorem boundNames_zero (source : Bytes) (t : Tree) :
    boundNames source 0 t = .error .tooDeep := by
  cases t
  rfl

theorem boundNames_succ (source : Bytes) (room : Nat) (t : Tree) :
    boundNames source (room + 1) t =
      if bindsName t.label.type then (nameText source t).map fun name => [name]
      else if hasDefault t.label.type then
        (t.child? "left").elim (.ok []) (boundNames source room)
      else if t.label.type == "pair_pattern" then
        (t.child? "value").elim (.ok []) (boundNames source room)
      else boundInNamed source room t.children := by
  obtain ⟨label, cs⟩ := t
  rw [boundNames, boundInField_eq, boundInField_eq]
  rfl

theorem exists_of_mem_boundInNamed {room : Nat} {ts : List Tree} {names : List String}
    (h : boundInNamed source room ts = .ok names) {name : String} (hname : name ∈ names) :
    ∃ t ∈ ts, ∃ found, boundNames source room t = .ok found ∧ name ∈ found := by
  induction ts generalizing names with
  | nil =>
      cases h
      cases hname
  | cons t ts ih =>
      have hrest : ∀ {others}, boundInNamed source room ts = .ok others → name ∈ others →
          ∃ t' ∈ t :: ts, ∃ found, boundNames source room t' = .ok found ∧ name ∈ found := by
        intro others hothers hmem
        obtain ⟨t', ht', hfound⟩ := ih hothers hmem
        exact ⟨t', List.mem_cons_of_mem t ht', hfound⟩
      rw [boundInNamed] at h
      split at h
      · obtain ⟨found, hfound, hbehind⟩ := bind_eq_ok_iff.mp h
        obtain ⟨others, hothers, ⟨⟩⟩ := bind_eq_ok_iff.mp hbehind
        rcases List.mem_append.mp hname with hmem | hmem
        · exact ⟨t, List.mem_cons_self, found, hfound, hmem⟩
        · exact hrest hothers hmem
      · exact hrest h hname

theorem exists_node_of_mem_boundNames {room : Nat} {t : Tree} {names : List String}
    (h : boundNames source room t = .ok names) {name : String} (hname : name ∈ names) :
    ∃ v ∈ t.nodes, bindsName v.label.type ∧ v.text source = .ok name := by
  induction t using Tree.inductionOnChildren generalizing room names with
  | step t ih =>
      cases room with
      | zero =>
          rw [boundNames_zero] at h
          cases h
      | succ room =>
          have hbelow : ∀ c ∈ t.children, ∀ {found}, boundNames source room c = .ok found →
              name ∈ found → ∃ v ∈ t.nodes, bindsName v.label.type ∧ v.text source = .ok name := by
            intro c hc found hfound hmem
            obtain ⟨v, hv, hbinds⟩ := ih c hc hfound hmem
            exact ⟨v, Tree.mem_nodes_of_child hc hv, hbinds⟩
          have hfield : ∀ {field},
              (t.child? field).elim (.ok []) (boundNames source room) = .ok names →
                ∃ v ∈ t.nodes, bindsName v.label.type ∧ v.text source = .ok name := by
            intro field hfield
            cases hchild : t.child? field with
            | none =>
                rw [hchild] at hfield
                cases hfield
                cases hname
            | some c =>
                rw [hchild] at hfield
                exact hbelow c (Tree.mem_children_of_child? hchild) hfield hname
          rw [boundNames_succ] at h
          split at h
          · rename_i hbinds
            obtain ⟨text, htext, rfl⟩ := map_eq_ok_iff.mp h
            obtain rfl := List.mem_singleton.mp hname
            exact ⟨t, t.self_mem_nodes, hbinds, nameText_eq_ok_iff.mp htext⟩
          · split at h
            · exact hfield h
            · split at h
              · exact hfield h
              · obtain ⟨c, hc, found, hfound, hmem⟩ := exists_of_mem_boundInNamed h hname
                exact hbelow c hc hfound hmem

theorem exists_node_of_mem_declaratorNames {ts : List Tree} {names : List String}
    (h : declaratorNames source ts = .ok names) {name : String} (hname : name ∈ names) :
    ∃ t ∈ ts, ∃ v ∈ t.nodes, bindsName v.label.type ∧ v.text source = .ok name := by
  induction ts generalizing names with
  | nil =>
      cases h
      cases hname
  | cons t ts ih =>
      have hrest : ∀ {others}, declaratorNames source ts = .ok others → name ∈ others →
          ∃ t' ∈ t :: ts, ∃ v ∈ t'.nodes, bindsName v.label.type ∧ v.text source = .ok name := by
        intro others hothers hmem
        obtain ⟨t', ht', hnode⟩ := ih hothers hmem
        exact ⟨t', List.mem_cons_of_mem t ht', hnode⟩
      rw [declaratorNames] at h
      split at h
      · rename_i c htype hchild
        obtain ⟨found, hfound, hbehind⟩ := bind_eq_ok_iff.mp h
        obtain ⟨others, hothers, ⟨⟩⟩ := bind_eq_ok_iff.mp hbehind
        rcases List.mem_append.mp hname with hmem | hmem
        · obtain ⟨v, hv, hnode⟩ := exists_node_of_mem_boundNames hfound hmem
          have hc := Tree.mem_children_of_child? hchild
          exact ⟨t, List.mem_cons_self, v, Tree.mem_nodes_of_child hc hv, hnode⟩
        · exact hrest hothers hmem
      · exact hrest h hname

theorem boundInNamed_of_isBetween {room : Nat} {t : Tree} (h : IsBetween t) {ts : List Tree}
    {names : List String} (hnames : boundInNamed source room (t :: ts) = .ok names) :
    boundInNamed source room ts = .ok names := by
  rw [boundInNamed] at hnames
  split at hnames
  · rename_i hnamed
    obtain ⟨htype, hchildren⟩ := h.resolve_left (by rw [hnamed]; nofun)
    obtain ⟨found, hfound, hbehind⟩ := bind_eq_ok_iff.mp hnames
    obtain ⟨others, hothers, ⟨⟩⟩ := bind_eq_ok_iff.mp hbehind
    have hnone : found = [] := by
      cases room with
      | zero =>
          rw [boundNames_zero] at hfound
          cases hfound
      | succ room =>
          rw [boundNames_succ, hchildren] at hfound
          rcases htype with htype | htype <;> rw [htype] at hfound <;> cases hfound <;> rfl
    rw [hnone, List.nil_append, hothers]
  · exact hnames

mutual

/-- Of the names of a pattern those that are written as identifiers are found. -/
theorem eq_of_spells {p : Pattern} {t : Tree} (h : Spells source p t) {room : Nat}
    {names : List String} (hnames : boundNames source room t = .ok names) :
    names = p.identifiers.filterMap Identifier.plain? := by
  cases room with
  | zero =>
      rw [boundNames_zero] at hnames
      cases hnames
  | succ room =>
      rw [boundNames_succ] at hnames
      match h with
      | .identifier htype htext | .shorthand htype htext =>
          rw [htype, nameText, htext] at hnames
          cases hnames
          rfl
      | .undefined htype hchildren _ =>
          rw [htype, hchildren] at hnames
          cases hnames
          rfl
      | .object htype hmembers =>
          rw [htype] at hnames
          exact eq_of_spellsAll hmembers hnames
      | .array htype helements =>
          rw [htype] at hnames
          exact eq_of_spellsAll helements hnames
      | .pair htype hvalue hp =>
          rw [htype, hvalue] at hnames
          exact eq_of_spells hp hnames
      | .defaulted htype htarget hp =>
          rw [htarget] at hnames
          rcases htype with htype | htype <;> rw [htype] at hnames <;> exact eq_of_spells hp hnames
      | .rest htype hp =>
          rw [htype] at hnames
          have hparts := eq_of_spellsAll hp hnames
          rwa [Pattern.identifiersOf, Pattern.identifiersOf, List.append_nil] at hparts

theorem eq_of_spellsAll {ps : List Pattern} {ts : List Tree} (h : SpellsAll source ps ts)
    {room : Nat} {names : List String} (hnames : boundInNamed source room ts = .ok names) :
    names = (Pattern.identifiersOf ps).filterMap Identifier.plain? := by
  match h with
  | .nil =>
      cases hnames
      rfl
  | .between ht hrest => exact eq_of_spellsAll hrest (boundInNamed_of_isBetween ht hnames)
  | .cons hnamed hp hrest =>
      rw [boundInNamed, if_pos hnamed] at hnames
      obtain ⟨found, hfound, hbehind⟩ := bind_eq_ok_iff.mp hnames
      obtain ⟨others, hothers, ⟨⟩⟩ := bind_eq_ok_iff.mp hbehind
      rw [eq_of_spells hp hfound, eq_of_spellsAll hrest hothers, Pattern.identifiersOf,
        List.filterMap_append]

end

theorem eq_of_declares {ps : List Pattern} {ts : List Tree} (h : Declares source ps ts)
    {names : List String} (hnames : declaratorNames source ts = .ok names) :
    names = (Pattern.identifiersOf ps).filterMap Identifier.plain? := by
  induction h generalizing names with
  | nil =>
      cases hnames
      rfl
  | other htype hrest ih =>
      rw [declaratorNames, beq_false_of_ne htype] at hnames
      exact ih hnames
  | declarator htype hname hp hrest ih =>
      rw [declaratorNames, htype, hname] at hnames
      simp only [BEq.rfl] at hnames
      obtain ⟨found, hfound, hbehind⟩ := bind_eq_ok_iff.mp hnames
      obtain ⟨others, hothers, ⟨⟩⟩ := bind_eq_ok_iff.mp hbehind
      rw [eq_of_spells hp hfound, ih hothers, Pattern.identifiersOf, List.filterMap_append]

def joinedName (names : List String) : String :=
  if names = [] then "anonymous" else "_".intercalate names

theorem isNamed_iff_joinedName {t : Tree} {kind : UnitKind} {parentName : Option String}
    {name : String} {names : List String}
    (hrule : unitRule? t.label.type = some (kind, .declarators))
    (hnames : declaratorNames source t.children = .ok names) :
    IsNamed source t kind parentName name ↔ name = joinedName names := by
  rw [isNamed_iff_hasName hrule (.inr rfl)]
  simp only [hasName_iff_joinedNames hrule, joinedNames_iff hnames, joinedName]
  by_cases hnil : names = [] <;> simp [hnil]

theorem exists_intercalate_cons (name : String) (names : List String) :
    ∃ more, "_".intercalate (name :: names) = name ++ more := by
  cases names with
  | nil => exact ⟨"", by rw [String.intercalate_singleton, String.append_empty]⟩
  | cons other names =>
      exact ⟨_, by rw [String.intercalate_cons_cons, String.append_assoc]⟩

/-- The length of names that are joined, with one character more. -/
def joinedLength : List String → Nat
  | [] => 0
  | name :: names => name.length + 1 + joinedLength names

theorem length_intercalate {names : List String} (h : names ≠ []) :
    ("_".intercalate names).length + 1 = joinedLength names := by
  induction names with
  | nil => exact absurd rfl h
  | cons name names ih =>
      cases names with
      | nil => simp [joinedLength]
      | cons other names =>
          have hrest := ih (List.cons_ne_nil other names)
          have hone : "_".length = 1 := by decide
          rw [String.intercalate_cons_cons, String.length_append, String.length_append, hone]
          simp only [joinedLength] at hrest ⊢
          omega

theorem joinedLength_filterMap_plain? (is : List Identifier) :
    joinedLength (is.filterMap Identifier.plain?) + 10 * is.count .undefined
      = joinedLength (is.map Identifier.text) := by
  induction is with
  | nil => rfl
  | cons i is ih =>
      have hlength : "undefined".length = 9 := by decide
      cases i with
      | plain name =>
          simp only [joinedLength, List.filterMap_cons, Identifier.plain?, List.map_cons,
            Identifier.text, List.count_cons] at ih ⊢
          simp only [beq_iff_eq, reduceCtorEq, if_false]
          omega
      | undefined =>
          simp only [joinedLength, List.filterMap_cons, Identifier.plain?, List.map_cons,
            Identifier.text, List.count_cons, hlength] at ih ⊢
          simp only [BEq.rfl, if_true]
          omega

theorem filterMap_plain?_of_not_mem {is : List Identifier} (h : .undefined ∉ is) :
    is.filterMap Identifier.plain? = is.map Identifier.text := by
  induction is with
  | nil => rfl
  | cons i is ih =>
      rw [List.mem_cons, not_or] at h
      cases i with
      | plain name => exact congrArg (name :: ·) (ih h.2)
      | undefined => exact absurd rfl h.1

/-- Joined names tell whether the word `undefined` was left out of them. -/
theorem joinedName_plain_iff (is : List Identifier) :
    joinedName (is.filterMap Identifier.plain?) = joinedName (is.map Identifier.text) ↔
      .undefined ∉ is := by
  refine ⟨fun heq hmem => ?_, fun h => by rw [filterMap_plain?_of_not_mem h]⟩
  have hlength := joinedLength_filterMap_plain? is
  have hcount := List.count_pos_iff.mpr hmem
  have hall : is.map Identifier.text ≠ [] := by
    intro hnil
    rw [List.map_eq_nil_iff.mp hnil] at hmem
    cases hmem
  have hall' := length_intercalate hall
  rw [joinedName, joinedName, if_neg hall] at heq
  split at heq
  · rename_i hnone
    -- All names are left out, so the joined ones begin with the first letter of the word.
    cases is with
    | nil => cases hmem
    | cons i is =>
        cases i with
        | plain name => cases hnone
        | undefined =>
            obtain ⟨more, hmore⟩ := exists_intercalate_cons "undefined" (is.map Identifier.text)
            have hchars := congrArg String.toList (heq.trans hmore)
            rw [String.toList_append] at hchars
            exact absurd (congrArg List.head? hchars) (by simp)
  · rename_i hsome
    have hsome' := length_intercalate hsome
    rw [heq] at hsome'
    omega

variable {parse : Parser} {strict : Bool} {file : String} {p : Partition} {root t : Tree} {i : Nat}
  {kind : UnitKind} {ps : List Pattern}

/-- Where a walk ends with findings the names of every declaration were found. -/
theorem exists_declaratorNames_of_findings {ds : List Finding}
    (h : findings source none 0 root = .ok ds) (ht : t ∈ root.nodes)
    (hrule : unitRule? t.label.type = some (kind, .declarators)) :
    ∃ names, declaratorNames source t.children = .ok names := by
  obtain ⟨parentName, depth, found, hvisit⟩ := exists_visit_of_findings h ht
  simp only [visit, hrule] at hvisit
  obtain ⟨named, hnamed, -⟩ := bind_eq_ok_iff.mp hvisit
  obtain ⟨names, hnames, -⟩ := bind_eq_ok_iff.mp hnamed
  exact ⟨names, hnames⟩

theorem exists_unit_of_declares (hsplit : split parse strict source file = .ok p)
    (hparse : parse source = some root) (ht : (root.nodes.filter isUnit)[i]? = some t)
    (hrule : unitRule? t.label.type = some (kind, .declarators))
    (hps : Declares source ps t.children) :
    ∃ u, p.units[i]? = some u ∧ u.kind = kind ∧ u.startByte = t.label.start ∧
      u.endByte = t.label.stop ∧
      u.name = joinedName ((Pattern.identifiersOf ps).filterMap Identifier.plain?) := by
  obtain ⟨around, d, hunit, hd⟩ := exists_unit_of_node hsplit hparse ht
  obtain ⟨naming, hrule'⟩ := hd.rule
  obtain ⟨rfl, rfl⟩ := Prod.mk.inj (Option.some.inj (hrule.symm.trans hrule'))
  obtain ⟨ds, hds⟩ := exists_findings_of_split hsplit hparse
  obtain ⟨names, hnames⟩ := exists_declaratorNames_of_findings hds
    (List.mem_filter.mp (List.mem_of_getElem? ht)).1 hrule
  have hname := (isNamed_iff_joinedName hrule hnames).mp hd.name
  exact ⟨_, hunit, rfl, hd.startByte, hd.endByte, eq_of_declares hps hnames ▸ hname⟩

/-- The unit of a declaration is named for the names that its patterns bind, in their order and
with repeats, the word `undefined` as a part of a pattern left out. It is named for all of them
exactly if this word is not among them. -/
theorem split_declaration_isNamed (hsplit : split parse strict source file = .ok p)
    (hparse : parse source = some root) (ht : (root.nodes.filter isUnit)[i]? = some t)
    (htype : t.label.type = "variable_declaration" ∧ kind = .variable ∨
      t.label.type = "lexical_declaration" ∧ kind = .constant)
    (hps : Declares source ps t.children) :
    ∃ u, p.units[i]? = some u ∧ u.kind = kind ∧ u.startByte = t.label.start ∧
      u.endByte = t.label.stop ∧
      u.name = joinedName ((Pattern.identifiersOf ps).filterMap Identifier.plain?) ∧
      (u.name = joinedName ((Pattern.identifiersOf ps).map Identifier.text) ↔
        .undefined ∉ Pattern.identifiersOf ps) := by
  have hrule : unitRule? t.label.type = some (kind, .declarators) := by
    rcases htype with ⟨htype, rfl⟩ | ⟨htype, rfl⟩ <;> rw [htype] <;> rfl
  obtain ⟨u, hu, hkind, hstart, hend, hname⟩ := exists_unit_of_declares hsplit hparse ht hrule hps
  refine ⟨u, hu, hkind, hstart, hend, hname, ?_⟩
  rw [hname]
  exact joinedName_plain_iff (Pattern.identifiersOf ps)

def destructuring : Tree :=
  .node ⟨"lexical_declaration", true, false, false, 0, 37, none⟩
    [.node ⟨"variable_declarator", true, false, false, 4, 36, none⟩
      [.node ⟨"object_pattern", true, false, false, 4, 34, some "name"⟩
          [.node ⟨"\x7b", false, false, false, 4, 5, none⟩ [],
            .node ⟨"shorthand_property_identifier_pattern", true, false, false, 5, 6, none⟩ [],
            .node ⟨",", false, false, false, 6, 7, none⟩ [],
            .node ⟨"comment", true, false, false, 7, 11, none⟩ [],
            .node ⟨"pair_pattern", true, false, false, 11, 33, none⟩
              [.node ⟨"computed_property_name", true, false, false, 11, 14, none⟩
                  [.node ⟨"identifier", true, false, false, 12, 13, none⟩ []],
                .node ⟨"array_pattern", true, false, false, 15, 33, some "value"⟩
                  [.node ⟨"assignment_pattern", true, false, false, 16, 19, none⟩
                      [.node ⟨"identifier", true, false, false, 16, 17, some "left"⟩ [],
                        .node ⟨"identifier", true, false, false, 18, 19, none⟩ []],
                    .node ⟨"rest_pattern", true, false, false, 20, 32, none⟩
                      [.node ⟨"undefined", true, false, false, 23, 32, none⟩ []]]]],
        .node ⟨"identifier", true, false, false, 35, 36, some "value"⟩ []]]

def destructuringPatterns : List Pattern :=
  [.object [.name (.plain "a"),
    .pair (.array [.defaulted (.name (.plain "b")), .rest (.name .undefined)])]]

theorem declares_destructuring :
    Declares (Utf8.encode "let \x7ba,/**/[k]:[b=c,...undefined]\x7d=o;") destructuringPatterns
      destructuring.children := by
  refine .declarator rfl rfl (.object rfl ?_) .nil
  refine .between (.inl rfl) (.cons rfl (.shorthand rfl (by decide +kernel)) ?_)
  refine .between (.inl rfl) (.between (.inr ⟨.inl rfl, rfl⟩) (.cons rfl ?_ .nil))
  refine .pair rfl rfl (.array rfl (.cons rfl ?_ (.cons rfl ?_ .nil)))
  · exact .defaulted (.inl rfl) rfl (.identifier rfl (by decide +kernel))
  · exact .rest rfl (.cons rfl (.undefined rfl rfl (by decide +kernel)) .nil)

theorem split_destructuring_isNamed :
    let source := Utf8.encode "let \x7ba,/**/[k]:[b=c,...undefined]\x7d=o;"
    ∃ p, split (fun _ => some destructuring) true source "input.js" = .ok p ∧
      (destructuring.nodes.filter isUnit)[0]? = some destructuring ∧
      Declares source destructuringPatterns destructuring.children ∧
      ∃ u, p.units[0]? = some u ∧ u.kind = .constant ∧ u.startByte = 0 ∧ u.endByte = 37 ∧
        u.name = joinedName ["a", "b"] ∧
        (u.name = joinedName ["a", "b", "undefined"] ↔
          .undefined ∉ [.plain "a", .plain "b", Identifier.undefined]) := by
  have hok : (findings (Utf8.encode "let \x7ba,/**/[k]:[b=c,...undefined]\x7d=o;") none 0
      destructuring).isOk := by decide +kernel
  obtain ⟨p, hp⟩ := exists_split_of_isOk hok rfl true "input.js"
  exact ⟨p, hp, rfl, declares_destructuring,
    split_declaration_isNamed hp rfl rfl (.inr ⟨rfl, rfl⟩) declares_destructuring⟩

def undefinedElement : Tree :=
  .node ⟨"program", true, false, false, 0, 40, none⟩
    [.node ⟨"function_declaration", true, false, false, 0, 40, none⟩
      [.node ⟨"function", false, false, false, 0, 8, none⟩ [],
        .node ⟨"identifier", true, false, false, 9, 10, some "name"⟩ [],
        .node ⟨"formal_parameters", true, false, false, 10, 14, some "parameters"⟩
          [.node ⟨"(", false, false, false, 10, 11, none⟩ [],
            .node ⟨"identifier", true, false, false, 11, 13, none⟩ [],
            .node ⟨")", false, false, false, 13, 14, none⟩ []],
        .node ⟨"statement_block", true, false, false, 15, 40, none⟩
          [.node ⟨"\x7b", false, false, false, 15, 16, none⟩ [],
            .node ⟨"variable_declaration", true, false, false, 17, 38, none⟩
              [.node ⟨"var", false, false, false, 17, 20, none⟩ [],
                .node ⟨"variable_declarator", true, false, false, 21, 37, none⟩
                  [.node ⟨"array_pattern", true, false, false, 21, 32, some "name"⟩
                      [.node ⟨"[", false, false, false, 21, 22, none⟩ [],
                        .node ⟨"undefined", true, false, false, 22, 31, none⟩ [],
                        .node ⟨"]", false, false, false, 31, 32, none⟩ []],
                    .node ⟨"=", false, false, false, 33, 34, none⟩ [],
                    .node ⟨"identifier", true, false, false, 35, 37, some "value"⟩ []],
                .node ⟨";", false, false, false, 37, 38, none⟩ []],
            .node ⟨"\x7d", false, false, false, 39, 40, none⟩ []]]]

/-- A declaration that binds a name has the unit of one that binds none. -/
theorem exists_split_undefined_anonymous :
    let source := Utf8.encode "function f(xs) \x7b var [undefined] = xs; \x7d"
    let ps : List Pattern := [.array [.name .undefined]]
    ∃ p t u, split (fun _ => some undefinedElement) true source "input.js" = .ok p ∧
      (undefinedElement.nodes.filter isUnit)[1]? = some t ∧
      t.label.type = "variable_declaration" ∧ Declares source ps t.children ∧
      (Pattern.identifiersOf ps).map Identifier.text = ["undefined"] ∧
      p.units[1]? = some u ∧ u.name = "anonymous" ∧ u.name ≠ joinedName ["undefined"] := by
  intro source ps
  have hok : (findings (Utf8.encode "function f(xs) \x7b var [undefined] = xs; \x7d") none 0
      undefinedElement).isOk := by decide +kernel
  obtain ⟨p, hp⟩ := exists_split_of_isOk hok rfl true "input.js"
  obtain ⟨t, ht, htype, hdeclares⟩ : ∃ t, (undefinedElement.nodes.filter isUnit)[1]? = some t ∧
      t.label.type = "variable_declaration" ∧ Declares source ps t.children := by
    refine ⟨_, rfl, rfl, ?_⟩
    refine .other (by decide) (.declarator rfl rfl (.array rfl ?_) (.other (by decide) .nil))
    exact .between (.inl rfl)
      (.cons rfl (.undefined rfl rfl (by decide +kernel)) (.between (.inl rfl) .nil))
  have hrule : unitRule? t.label.type = some (.variable, .declarators) := by
    rw [htype]
    rfl
  obtain ⟨u, hu, -, -, -, hname⟩ := exists_unit_of_declares hp rfl ht hrule hdeclares
  exact ⟨p, t, u, hp, ht, htype, hdeclares, rfl, hu, hname, by rw [hname]; decide⟩

end Partition

end Dissect
