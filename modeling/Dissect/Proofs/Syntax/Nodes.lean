import Dissect.Syntax.Tree

namespace Dissect.Syntax.Tree

theorem inductionOnChildren {motive : Tree → Prop}
    (step : ∀ t, (∀ c ∈ t.children, motive c) → motive t) : (t : Tree) → motive t
  | .node label cs => step (.node label cs) fun c _ => inductionOnChildren step c
termination_by t => sizeOf t
decreasing_by
  rename_i hc
  have := List.sizeOf_lt_of_mem hc
  simp only [Tree.node.sizeOf_spec]
  change sizeOf c < sizeOf cs at this
  omega

mutual

def nodes : Tree → List Tree
  | .node label cs => .node label cs :: nodesOf cs

def nodesOf : List Tree → List Tree
  | [] => []
  | t :: rest => nodes t ++ nodesOf rest

end

theorem nodesOf_eq_flatMap (ts : List Tree) : nodesOf ts = ts.flatMap nodes := by
  induction ts with
  | nil => rfl
  | cons t rest ih => rw [nodesOf, ih, List.flatMap_cons]

theorem nodes_eq_cons (t : Tree) : t.nodes = t :: t.children.flatMap nodes := by
  cases t with
  | node label cs =>
      rw [nodes, nodesOf_eq_flatMap]
      rfl

theorem self_mem_nodes (t : Tree) : t ∈ t.nodes := by
  rw [nodes_eq_cons]
  exact List.mem_cons_self

theorem mem_nodes_of_child {t c v : Tree} (hc : c ∈ t.children) (hv : v ∈ c.nodes) :
    v ∈ t.nodes := by
  rw [nodes_eq_cons]
  exact List.mem_cons_of_mem _ (List.mem_flatMap_of_mem hc hv)

theorem mem_nodes_trans {t v w : Tree} (hv : v ∈ t.nodes) (hw : w ∈ v.nodes) : w ∈ t.nodes := by
  induction t using inductionOnChildren with
  | step t ih =>
      rw [nodes_eq_cons, List.mem_cons, List.mem_flatMap] at hv
      rcases hv with rfl | ⟨c, hc, hv⟩
      · exact hw
      · exact mem_nodes_of_child hc (ih c hc hv)

theorem mem_children_of_child? {field : String} {t c : Tree} (h : t.child? field = some c) :
    c ∈ t.children :=
  List.mem_of_find?_eq_some h

mutual

/-- The nodes of a tree, each before the nodes below it, with the nodes around each, nearest
first. -/
def placed (around : List Tree) : Tree → List (List Tree × Tree)
  | .node label cs => (around, .node label cs) :: placedOf (.node label cs :: around) cs

def placedOf (around : List Tree) : List Tree → List (List Tree × Tree)
  | [] => []
  | t :: rest => placed around t ++ placedOf around rest

end

theorem placed_eq_cons (around : List Tree) (t : Tree) :
    t.placed around = (around, t) :: placedOf (t :: around) t.children := by
  cases t with
  | node label cs => rfl

theorem placedOf_eq_flatMap (around : List Tree) (ts : List Tree) :
    placedOf around ts = ts.flatMap (placed around) := by
  induction ts with
  | nil => rfl
  | cons t rest ih => rw [placedOf, ih, List.flatMap_cons]

theorem map_snd_placed (around : List Tree) (t : Tree) :
    (t.placed around).map Prod.snd = t.nodes := by
  induction t using inductionOnChildren generalizing around with
  | step t ih =>
      have hbelow : ∀ ts, (∀ c ∈ ts, ∀ around, (c.placed around).map Prod.snd = c.nodes) →
          (placedOf (t :: around) ts).map Prod.snd = ts.flatMap nodes := by
        intro ts hts
        induction ts with
        | nil => rfl
        | cons c rest ihRest =>
            obtain ⟨hc, hrest⟩ := List.forall_mem_cons.mp hts
            rw [placedOf, List.map_append, hc, ihRest hrest, List.flatMap_cons]
      rw [placed_eq_cons, List.map_cons, hbelow t.children ih, nodes_eq_cons]

theorem mem_nodes_of_mem_placed {around around' : List Tree} {t v : Tree}
    (h : (around', v) ∈ t.placed around) :
    v ∈ t.nodes ∧ ∀ w ∈ around', w ∈ around ∨ w ∈ t.nodes := by
  induction t using inductionOnChildren generalizing around with
  | step t ih =>
      have hbelow : ∀ ts, (∀ c ∈ ts, c ∈ t.children) →
          (around', v) ∈ placedOf (t :: around) ts →
            v ∈ t.nodes ∧ ∀ w ∈ around', w ∈ around ∨ w ∈ t.nodes := by
        intro ts hts hmem
        induction ts with
        | nil => cases hmem
        | cons c rest ihRest =>
            obtain ⟨hc, hrest⟩ := List.forall_mem_cons.mp hts
            rcases List.mem_append.mp hmem with hmem | hmem
            · obtain ⟨hv, haround⟩ := ih c hc hmem
              refine ⟨mem_nodes_of_child hc hv, fun w hw => ?_⟩
              rcases haround w hw with hw | hw
              · rcases List.mem_cons.mp hw with rfl | hw
                · exact .inr w.self_mem_nodes
                · exact .inl hw
              · exact .inr (mem_nodes_of_child hc hw)
            · exact ihRest hrest hmem
      rw [placed_eq_cons] at h
      rcases List.mem_cons.mp h with heq | hmem
      · obtain ⟨rfl, rfl⟩ := Prod.mk.inj heq
        exact ⟨v.self_mem_nodes, fun w hw => .inl hw⟩
      · exact hbelow t.children (fun c hc => hc) hmem

/-- Every node's range is in order and ends within the first `n` octets. -/
def Within (n : Nat) (t : Tree) : Prop :=
  ∀ v ∈ t.nodes, v.label.start ≤ v.label.stop ∧ v.label.stop ≤ n

instance (n : Nat) (t : Tree) : Decidable (t.Within n) :=
  inferInstanceAs (Decidable (∀ v ∈ t.nodes, _))

/-- Every node's range is in order, its children lie inside it, and each child ends before the next
one starts. -/
def Nested (t : Tree) : Prop :=
  ∀ v ∈ t.nodes, v.label.start ≤ v.label.stop ∧
    (∀ c ∈ v.children, v.label.start ≤ c.label.start ∧ c.label.stop ≤ v.label.stop) ∧
    v.children.Pairwise fun a b => a.label.stop ≤ b.label.start

instance (t : Tree) : Decidable t.Nested := inferInstanceAs (Decidable (∀ v ∈ t.nodes, _))

theorem Nested.child {t c : Tree} (h : t.Nested) (hc : c ∈ t.children) : c.Nested :=
  fun v hv => h v (mem_nodes_of_child hc hv)

end Dissect.Syntax.Tree
