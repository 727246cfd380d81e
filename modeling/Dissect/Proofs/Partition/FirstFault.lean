import Dissect.Partition.Split
import Dissect.Proofs.Syntax.Nodes
import Dissect.Proofs.Text.Utf8

namespace Dissect.Partition

open Syntax Text

/-- The node is an error, or stands for something that is missing. -/
def isFault (t : Tree) : Bool := t.label.type == "ERROR" || t.label.missing

/-- Every node with an error or a missing node below it has the error mark. -/
def MarksFaults (root : Tree) : Prop :=
  ∀ v ∈ root.nodes, (∃ c ∈ v.children, ∃ w ∈ c.nodes, isFault w) → v.label.hasError

instance (root : Tree) : Decidable (MarksFaults root) :=
  inferInstanceAs (Decidable (∀ v ∈ root.nodes, _))

/-- The line, from one on, of the first node of the whole tree in pre-order that is an error or
missing, or that of the root where there is none. -/
def firstFaultLine (source : Bytes) (root : Tree) : Nat :=
  lineFeedsBefore source ((root.nodes.find? isFault).getD root).label.start + 1

theorem MarksFaults.child {t c : Tree} (h : MarksFaults t) (hc : c ∈ t.children) : MarksFaults c :=
  fun v hv => h v (Tree.mem_nodes_of_child hc hv)

/-- There is nothing to be found below a node without the mark. -/
theorem MarksFaults.find?_children {t : Tree} (h : MarksFaults t) (hmark : ¬ t.label.hasError) :
    (t.children.flatMap Tree.nodes).find? isFault = none := by
  rw [List.find?_eq_none]
  intro w hw hfault
  obtain ⟨c, hc, hwc⟩ := List.mem_flatMap.mp hw
  exact hmark (h t t.self_mem_nodes ⟨c, hc, w, hwc, hfault⟩)

theorem find?_nodes_append (t : Tree) (rest : List Tree) :
    (t.nodes ++ rest).find? isFault
      = if isFault t then some t else (t.children.flatMap Tree.nodes ++ rest).find? isFault := by
  rw [Tree.nodes_eq_cons, List.cons_append, List.find?_cons]
  cases isFault t <;> rfl

/-- By induction on the nodes that are still to be looked at, as the search goes through them. -/
theorem firstFault?_eq {work : List Tree} (h : ∀ t ∈ work, MarksFaults t) :
    firstFault? work = (work.flatMap Tree.nodes).find? isFault := by
  fun_induction firstFault? work with
  | case1 => rfl
  | case2 t work hfault =>
      have hfault : isFault t := hfault
      rw [List.flatMap_cons, find?_nodes_append, if_pos hfault]
  | case3 t work hfault hmark ih =>
      have hfault : ¬ isFault t := hfault
      obtain ⟨ht, hwork⟩ := List.forall_mem_cons.mp h
      rw [ih (List.forall_mem_append.mpr ⟨fun c hc => ht.child hc, hwork⟩), List.flatMap_append,
        List.flatMap_cons, find?_nodes_append, if_neg hfault]
  | case4 t work hfault hmark ih =>
      have hfault : ¬ isFault t := hfault
      obtain ⟨ht, hwork⟩ := List.forall_mem_cons.mp h
      rw [ih hwork, List.flatMap_cons, find?_nodes_append, if_neg hfault, List.find?_append,
        ht.find?_children hmark, Option.none_or]

theorem faultLine_eq (source : Bytes) {root : Tree} (h : MarksFaults root) :
    faultLine source root = firstFaultLine source root := by
  rw [faultLine, firstFault?_eq (List.forall_mem_singleton.mpr h), List.flatMap_singleton,
    firstFaultLine]

theorem split_eq_syntaxError_iff {parse : Parser} {strict : Bool} {source : Bytes} {root : Tree}
    {file file' : String} {line : Nat} (hparse : parse source = some root) :
    split parse strict source file = .error (.syntaxError file' line) ↔
      (∃ text, Utf8.decode source = .ok text) ∧ root.label.hasError ∧ strict ∧ file' = file ∧
        line = faultLine source root := by
  rw [split]
  cases htext : Utf8.decode source with
  | error f => simp
  | ok text =>
      simp only [hparse, ofTree]
      cases hmark : root.label.hasError && strict with
      | false =>
          have hnot : ¬ (root.label.hasError ∧ strict) := by
            rw [← Bool.and_eq_true, hmark]
            exact Bool.false_ne_true
          cases traverse source root <;> simp_all
      | true =>
          rw [Bool.and_eq_true] at hmark
          simp [hmark, eq_comm]

/-- The search for the first error finds the first error of the whole tree, whose line is the one
that a source is refused with. -/
theorem faultLine_isFirst (source : Bytes) {root : Tree} (h : MarksFaults root) :
    firstFault? [root] = root.nodes.find? isFault ∧
      faultLine source root = firstFaultLine source root ∧
      ∀ {parse : Parser} {strict : Bool} {file file' : String} {line : Nat},
        parse source = some root →
        (split parse strict source file = .error (.syntaxError file' line) ↔
          (∃ text, Utf8.decode source = .ok text) ∧ root.label.hasError ∧ strict ∧ file' = file ∧
            line = firstFaultLine source root) := by
  refine ⟨?_, faultLine_eq source h, fun hparse => ?_⟩
  · rw [firstFault?_eq (List.forall_mem_singleton.mpr h), List.flatMap_singleton]
  · rw [split_eq_syntaxError_iff hparse, faultLine_eq source h]

/-- The tree of `// a`, a line feed and `f(;`, of which nodes without a name are left out but for
the bracket that is missing. -/
def openCall : Tree :=
  .node ⟨"program", true, false, true, 0, 8, none⟩
    [.node ⟨"comment", true, false, false, 0, 4, none⟩ [],
      .node ⟨"expression_statement", true, false, true, 5, 8, none⟩
        [.node ⟨"call_expression", true, false, true, 5, 7, none⟩
          [.node ⟨"identifier", true, false, false, 5, 6, none⟩ [],
            .node ⟨"arguments", true, false, true, 6, 7, none⟩
              [.node ⟨")", false, true, true, 7, 7, none⟩ []]]]]

theorem faultLine_isFirst_openCall :
    let source := Utf8.encode "// a\nf(;"
    MarksFaults openCall ∧ firstFault? [openCall] = openCall.nodes.find? isFault ∧
      faultLine source openCall = 2 ∧
      split (fun _ => some openCall) true source "input.js"
        = .error (.syntaxError "input.js" 2) := by
  intro source
  have hmarks : MarksFaults openCall := by decide
  have hline : firstFaultLine source openCall = 2 := by decide
  obtain ⟨hfirst, hsame, hsplit⟩ := faultLine_isFirst source hmarks
  refine ⟨hmarks, hfirst, hsame.trans hline, (hsplit rfl).mpr ⟨?_, rfl, rfl, rfl, hline.symm⟩⟩
  exact ⟨_, Utf8.decode_eq_ok_iff.mpr rfl⟩

end Dissect.Partition
