import Dissect.Proofs.Reference.Distinct
import Dissect.Proofs.Reference.Scan
import Mathlib.Data.List.Sort
import Mathlib.Data.String.Basic

/-!
The graph of references between units. Its names are those of the units and the other known ones,
and its edges go from each unit to the known names that its references spell. With the known names
fixed, the edges of more units are put together from those of each, and fewer known names leave out
the edges to the others.
-/

namespace Dissect.Reference

open Syntax Text

variable {parse : Parser} {units : List SourceUnit} {known : List String}

theorem pairwise_mergeSort_names {names : List String} (h : names.Nodup) :
    (names.mergeSort (· ≤ ·)).Pairwise (· < ·) := by
  have hle : (names.mergeSort (· ≤ ·)).Pairwise (· ≤ ·) := List.pairwise_mergeSort' (· ≤ ·) names
  have hne : (names.mergeSort (· ≤ ·)).Nodup := (List.mergeSort_perm _ _).nodup_iff.mpr h
  exact (hle.and hne).imp fun ⟨hle, hne⟩ => lt_of_le_of_ne hle hne

/-- The names are those of the units as first seen, then the other known ones in order. -/
structure IsNames (units : List SourceUnit) (known nodes : List String) : Prop where
  once : nodes.Nodup
  split : ∃ own others, nodes = own ++ others ∧ FirstSeen (units.map (·.name)) own ∧
    others.Pairwise (· < ·) ∧ ∀ k, k ∈ others ↔ k ∈ known ∧ k ∉ units.map (·.name)

theorem isNames_nodesOf (units : List SourceUnit) (known : List String) :
    IsNames units known (nodesOf units known) := by
  have hown := firstSeen_distinct (units.map (·.name))
  have hothers : ∀ k,
      k ∈ ((distinct known).filter fun k => !(distinct (units.map (·.name))).contains k).mergeSort
          (· ≤ ·) ↔ k ∈ known ∧ k ∉ units.map (·.name) := by
    intro k
    rw [List.mem_mergeSort, List.mem_filter, mem_distinct, Bool.not_eq_true',
      ← Bool.not_eq_true, List.contains_iff_mem, hown.mem_iff]
  have hsorted := pairwise_mergeSort_names ((nodup_distinct known).filter
    fun k => !(distinct (units.map (·.name))).contains k)
  constructor
  · refine List.nodup_append.mpr ⟨hown.once, hsorted.imp String.ne_of_lt, ?_⟩
    rintro k hk _ hk' rfl
    exact ((hothers k).mp hk').2 ((hown.mem_iff k).mp hk)
  · exact ⟨_, _, rfl, hown, hsorted, hothers⟩

theorem IsNames.mem_of_unit {nodes : List String} (h : IsNames units known nodes) {u : SourceUnit}
    (hu : u ∈ units) : u.name ∈ nodes := by
  obtain ⟨own, others, rfl, hown, -, -⟩ := h.split
  exact List.mem_append_left _ ((hown.mem_iff _).mpr (List.mem_map_of_mem hu))

theorem IsNames.mem_of_known {nodes : List String} (h : IsNames units known nodes) {k : String}
    (hk : k ∈ known) : k ∈ nodes := by
  obtain ⟨own, others, rfl, hown, -, hothers⟩ := h.split
  by_cases hunit : k ∈ units.map (·.name)
  · exact List.mem_append_left _ ((hown.mem_iff k).mpr hunit)
  · exact List.mem_append_right _ ((hothers k).mpr ⟨hk, hunit⟩)

def edgesIn (parse : Parser) (known : List String) (u : SourceUnit) : List (String × String) :=
  (((referenceNodes parse u).filterMap (spelling u)).filter known.contains).map (u.name, ·)

theorem edgesOf_eq_ok_iff {edges : List (String × String)} :
    edgesOf parse known units = .ok edges
      ↔ (∀ u ∈ units, Readable parse u) ∧ edges = units.flatMap (edgesIn parse known) := by
  induction units generalizing edges with
  | nil =>
      constructor
      · rintro ⟨⟩
        exact ⟨nofun, rfl⟩
      · rintro ⟨-, rfl⟩
        rfl
  | cons u rest ih =>
      rw [edgesOf, bind_eq_ok_iff]
      constructor
      · rintro ⟨names, hnames, h⟩
        obtain ⟨later, hlater, ⟨⟩⟩ := bind_eq_ok_iff.mp h
        obtain ⟨hu, rfl⟩ := references_eq_ok_iff.mp hnames
        obtain ⟨hrest, rfl⟩ := ih.mp hlater
        exact ⟨List.forall_mem_cons.mpr ⟨hu, hrest⟩, rfl⟩
      · rintro ⟨hall, rfl⟩
        obtain ⟨hu, hrest⟩ := List.forall_mem_cons.mp hall
        exact ⟨_, references_eq_ok_iff.mpr ⟨hu, rfl⟩,
          bind_eq_ok_iff.mpr ⟨_, ih.mpr ⟨hrest, rfl⟩, rfl⟩⟩

theorem edgesOf_append (parse : Parser) (known : List String) (us vs : List SourceUnit) :
    edgesOf parse known (us ++ vs) = do
      let es ← edgesOf parse known us
      return es ++ (← edgesOf parse known vs) := by
  induction us with
  | nil => exact (bind_pure (edgesOf parse known vs)).symm
  | cons u rest ih =>
      rw [List.cons_append, edgesOf, ih, edgesOf]
      simp only [bind_assoc, pure_bind, List.append_assoc]

theorem edgesOf_of_subset (units : List SourceUnit) {fewer : List String}
    (hfewer : ∀ k ∈ fewer, k ∈ known) :
    edgesOf parse fewer units
      = (edgesOf parse known units).map fun es => es.filter fun e => fewer.contains e.2 := by
  have hunit : ∀ (a : String) (names : List String),
      (names.filter fewer.contains).map (a, ·)
        = ((names.filter known.contains).map (a, ·)).filter fun e => fewer.contains e.2 := by
    intro a names
    rw [List.filter_map, List.filter_filter]
    refine congrArg _ (List.filter_congr fun name _ => ?_)
    rw [Function.comp_apply]
    by_cases hname : name ∈ fewer
    · rw [List.contains_iff_mem.mpr hname, List.contains_iff_mem.mpr (hfewer name hname)]
      rfl
    · rw [Bool.eq_false_iff.mpr (fun h => hname (List.contains_iff_mem.mp h)), Bool.false_and]
  induction units with
  | nil => rfl
  | cons u rest ih =>
      rw [edgesOf, edgesOf, ih]
      cases references parse u with
      | error e => rfl
      | ok names =>
          cases edgesOf parse known rest with
          | error e => rfl
          | ok es =>
              refine congrArg Except.ok ?_
              rw [hunit]
              exact (List.filter_append _ es).symm

theorem count_edgesIn (u : SourceUnit) (a b : String) :
    (edgesIn parse known u).count (a, b)
      = if u.name == a && known.contains b then
          (referenceNodes parse u).countP fun t => spelling u t == some b
        else 0 := by
  rw [edgesIn, List.count_eq_countP, List.countP_map, List.countP_filter, List.countP_filterMap]
  split
  · rename_i h
    obtain ⟨hu, hb⟩ := Bool.and_eq_true_iff.mp h
    refine List.countP_congr fun t _ => ?_
    cases spelling u t with
    | none => simp
    | some name => simp_all
  · rename_i h
    refine List.countP_eq_zero.mpr fun t _ => ?_
    cases spelling u t with
    | none => simp
    | some name => simp_all

theorem count_flatMap_edgesIn (units : List SourceUnit) (a b : String) :
    (units.flatMap (edgesIn parse known)).count (a, b)
      = if known.contains b then
          ((units.filter (·.name == a)).map fun u =>
            (referenceNodes parse u).countP fun t => spelling u t == some b).sum
        else 0 := by
  induction units with
  | nil => simp
  | cons u rest ih =>
      rw [List.flatMap_cons, List.count_append, count_edgesIn, ih, List.filter_cons]
      cases known.contains b with
      | false => simp
      | true => cases u.name == a <;> simp

/-- The graph says which references the units with these names and trees hold: its names once each,
both ends of every edge among them, and an edge for each reference to a known name. -/
structure IsResolved (parse : Parser) (units : List SourceUnit) (known : List String)
    (g : ReferenceGraph) : Prop where
  nodes : IsNames units known g.nodes
  closed : ∀ e ∈ g.edges, e.1 ∈ g.nodes ∧ e.2 ∈ g.nodes
  edges : g.edges = units.flatMap (edgesIn parse known)
  count : ∀ a b, g.edges.count (a, b) = if known.contains b then
      ((units.filter (·.name == a)).map fun u =>
        (referenceNodes parse u).countP fun t => spelling u t == some b).sum
    else 0

/-- With the known names given, the edges of more units are those of each part, and fewer names keep
the edges to them. -/
structure IsCompositional (parse : Parser) : Prop where
  append : ∀ us vs known,
    (graphOf parse (us ++ vs) (some known)).map (·.edges) = do
      let g ← graphOf parse us (some known)
      let h ← graphOf parse vs (some known)
      return g.edges ++ h.edges
  restrict : ∀ units fewer known, (∀ k ∈ fewer, k ∈ known) →
    (graphOf parse units (some fewer)).map (·.edges)
      = (graphOf parse units (some known)).map fun g =>
          g.edges.filter fun e => fewer.contains e.2

theorem graphOf_eq (parse : Parser) (units : List SourceUnit) (names : Option (List String)) :
    graphOf parse units names
      = (edgesOf parse (names.getD (units.map (·.name))) units).map fun edges =>
          ⟨nodesOf units (names.getD (units.map (·.name))), edges⟩ := by
  rw [graphOf]
  cases edgesOf parse (names.getD (units.map (·.name))) units <;> rfl

theorem isCompositional (parse : Parser) : IsCompositional parse where
  append us vs known := by
    simp only [graphOf_eq, Option.getD_some, edgesOf_append]
    cases edgesOf parse known us with
    | error e => rfl
    | ok es => cases edgesOf parse known vs <;> rfl
  restrict units fewer known hfewer := by
    simp only [graphOf_eq, Option.getD_some, edgesOf_of_subset units hfewer]
    cases edgesOf parse known units <;> rfl

theorem isResolved_of_graphOf {names : Option (List String)} {g : ReferenceGraph}
    (h : graphOf parse units names = .ok g) :
    IsResolved parse units (names.getD (units.map (·.name))) g := by
  rw [graphOf_eq, map_eq_ok_iff] at h
  obtain ⟨edges, hedges, rfl⟩ := h
  obtain ⟨-, rfl⟩ := edgesOf_eq_ok_iff.mp hedges
  have hnodes := isNames_nodesOf units (names.getD (units.map (·.name)))
  constructor
  · exact hnodes
  · intro e he
    obtain ⟨u, hu, he⟩ := List.mem_flatMap.mp he
    obtain ⟨name, hname, rfl⟩ := List.mem_map.mp he
    exact ⟨hnodes.mem_of_unit hu,
      hnodes.mem_of_known (List.contains_iff_mem.mp (List.mem_filter.mp hname).2)⟩
  · rfl
  · exact count_flatMap_edgesIn units

/-- Units that can be read have a graph, which is closed and holds one edge for each reference, and
graphs are put together from those of parts. -/
theorem graphOf_closed_compositional (parse : Parser) (units : List SourceUnit)
    (names : Option (List String)) :
    ((∃ g, graphOf parse units names = .ok g) ↔ ∀ u ∈ units, Readable parse u) ∧
    (∀ g, graphOf parse units names = .ok g →
      IsResolved parse units (names.getD (units.map (·.name))) g) ∧
    IsCompositional parse := by
  refine ⟨?_, fun g => isResolved_of_graphOf, isCompositional parse⟩
  simp only [graphOf_eq, map_eq_ok_iff, edgesOf_eq_ok_iff]
  constructor
  · rintro ⟨g, edges, ⟨hall, -⟩, -⟩
    exact hall
  · intro hall
    exact ⟨_, _, ⟨hall, rfl⟩, rfl⟩

def callers : List SourceUnit :=
  [⟨1, "f", .function, 1, 1, 0, 18, "function f(){g(f)}", none, 0, [(1, 1)]⟩,
    ⟨2, "g", .method, 1, 1, 0, 6, "g(){f}", some "C", 0, [(1, 1)]⟩]

def parseCallers : Parser := fun source =>
  if source = Utf8.encode "function f(){g(f)}" then
    some (.node ⟨"program", true, false, false, 0, 18, none⟩
      [.node ⟨"function_declaration", true, false, false, 0, 18, none⟩
        [.node ⟨"identifier", true, false, false, 9, 10, some "name"⟩ [],
          .node ⟨"call_expression", true, false, false, 13, 17, none⟩
            [.node ⟨"identifier", true, false, false, 13, 14, some "function"⟩ [],
              .node ⟨"arguments", true, false, false, 14, 17, some "arguments"⟩
                [.node ⟨"identifier", true, false, false, 15, 16, none⟩ []]]]])
  else if source = Utf8.encode "class __unit__ \x7b\ng(){f}\n\x7d" then
    some (.node ⟨"program", true, false, false, 0, 25, none⟩
      [.node ⟨"class_declaration", true, false, false, 0, 25, none⟩
        [.node ⟨"identifier", true, false, false, 6, 14, some "name"⟩ [],
          .node ⟨"method_definition", true, false, false, 17, 23, none⟩
            [.node ⟨"property_identifier", true, false, false, 17, 18, some "name"⟩ [],
              .node ⟨"identifier", true, false, false, 21, 22, none⟩ []]]])
  else none

theorem graphOf_callers_closed :
    ∃ g, graphOf parseCallers callers (some ["g", "f", "e"]) = .ok g ∧
      IsResolved parseCallers callers ["g", "f", "e"] g ∧
      g.edges = [("f", "g"), ("f", "f"), ("g", "f")] ∧
      (graphOf parseCallers callers (some ["f"])).map (·.edges) = .ok [("f", "f"), ("g", "f")] := by
  obtain ⟨hreads, hresolved, hparts⟩ :=
    graphOf_closed_compositional parseCallers callers (some ["g", "f", "e"])
  obtain ⟨g, hg⟩ := hreads.mpr (by decide +kernel)
  have hedges : g.edges = [("f", "g"), ("f", "f"), ("g", "f")] :=
    (hresolved g hg).edges.trans (by decide +kernel)
  refine ⟨g, hg, hresolved g hg, hedges, ?_⟩
  rw [hparts.restrict callers ["f"] ["g", "f", "e"] (by decide), hg]
  simp only [Except.map, hedges]
  rfl

end Dissect.Reference
