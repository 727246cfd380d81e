import Dissect.Partition.Traversal
import Dissect.Proofs.Outcome
import Dissect.Proofs.Syntax.Nodes

namespace Dissect.Partition

open Syntax Text

mutual

def findings (source : Bytes) (parentName : Option String) (depth : Nat) :
    Tree → Except NameFault (List Finding)
  | .node label cs =>
      match visit source ⟨.node label cs, parentName, depth⟩ with
      | .error f => .error f
      | .ok (found, parentName, depth) =>
          (findingsOf source parentName depth cs).map (found.toList ++ ·)

def findingsOf (source : Bytes) (parentName : Option String) (depth : Nat) :
    List Tree → Except NameFault (List Finding)
  | [] => .ok []
  | t :: rest =>
      match findings source parentName depth t with
      | .error f => .error f
      | .ok ds => (findingsOf source parentName depth rest).map (ds ++ ·)

end

/-- The findings of nodes to visit, each node with its own surroundings. -/
def findingsAt (source : Bytes) : List Visit → Except NameFault (List Finding)
  | [] => .ok []
  | v :: work =>
      match findings source v.parentName v.depth v.tree with
      | .error f => .error f
      | .ok ds => (findingsAt source work).map (ds ++ ·)

theorem findingsAt_append (source : Bytes) (parentName : Option String) (depth : Nat)
    (ts : List Tree) (work : List Visit) :
    findingsAt source ((ts.map fun c => ⟨c, parentName, depth⟩) ++ work)
      = match findingsOf source parentName depth ts with
        | .error f => .error f
        | .ok ds => (findingsAt source work).map (ds ++ ·) := by
  induction ts with
  | nil =>
      rw [findingsOf, List.map_nil, List.nil_append]
      cases findingsAt source work <;> rfl
  | cons t rest ih =>
      rw [List.map_cons, List.cons_append, findingsAt, findingsOf, ih]
      cases findings source parentName depth t with
      | error f => rfl
      | ok ds =>
          cases findingsOf source parentName depth rest with
          | error f => rfl
          | ok es => cases findingsAt source work <;> simp [Except.map]

/-- The walk with a list of nodes to visit is the recursion over their trees. -/
theorem traverseOnto_eq (source : Bytes) (found : Array Finding) (work : List Visit) :
    traverseOnto source found work
      = (findingsAt source work).map fun ds => found ++ ds.toArray := by
  fun_induction traverseOnto source found work with
  | case1 found => simp [findingsAt, Except.map]
  | case2 found v work f hv =>
      obtain ⟨⟨label, cs⟩, parentName, depth⟩ := v
      simp [findingsAt, findings, hv, Except.map]
  | case3 found v work finding? parentName depth hv found' ih =>
      obtain ⟨⟨label, cs⟩, parentName', depth'⟩ := v
      rw [ih, findingsAt, findings, hv]
      simp only [Tree.children, findingsAt_append]
      cases findingsOf source parentName depth cs with
      | error f => rfl
      | ok ds =>
          cases findingsAt source work with
          | error f => rfl
          | ok es => cases finding? <;> simp [Except.map, found']

theorem traverse_eq_findings (source : Bytes) (root : Tree) :
    traverse source root = findings source none 0 root := by
  rw [traverse, traverseOnto_eq, findingsAt]
  cases findings source none 0 root <;> simp [findingsAt, Except.map]

structure Finding.Marks (source : Bytes) (d : Finding) (t : Tree) : Prop where
  rule : ∃ naming, unitRule? t.label.type = some (d.kind, naming)
  startByte : d.startByte = t.label.start
  endByte : d.endByte = t.label.stop
  startLine : d.startLine = lineFeedsBefore source t.label.start + 1
  endLine : d.endLine = lineFeedsBefore source t.label.stop + 1

theorem visit_cases {source : Bytes} {v : Visit} {found : Option Finding}
    {parentName : Option String} {depth : Nat}
    (h : visit source v = .ok (found, parentName, depth)) :
    (∃ d, found = some d ∧ d.Marks source v.tree ∧ d.depth = v.depth ∧ depth = v.depth + 1) ∨
      (found = none ∧ unitRule? v.tree.label.type = none ∧ depth = v.depth) := by
  rw [visit] at h
  dsimp only at h
  split at h
  · rename_i kind naming hrule
    obtain ⟨named, hname, ⟨⟩⟩ := bind_eq_ok_iff.mp h
    exact .inl ⟨_, rfl, ⟨⟨naming, hrule⟩, rfl, rfl, rfl, rfl⟩, rfl, rfl⟩
  · rename_i hrule
    obtain ⟨own, hown, ⟨⟩⟩ := bind_eq_ok_iff.mp h
    exact .inr ⟨rfl, hrule, rfl⟩

theorem findings_eq_bind (source : Bytes) (parentName : Option String) (depth : Nat) (t : Tree) :
    findings source parentName depth t = visit source ⟨t, parentName, depth⟩ >>= fun v =>
      (findingsOf source v.2.1 v.2.2 t.children).map (v.1.toList ++ ·) := by
  obtain ⟨label, cs⟩ := t
  rw [findings]
  cases visit source ⟨.node label cs, parentName, depth⟩ <;> rfl

theorem findingsOf_cons (source : Bytes) (parentName : Option String) (depth : Nat) (t : Tree)
    (rest : List Tree) :
    findingsOf source parentName depth (t :: rest) =
      findings source parentName depth t >>= fun ds =>
        (findingsOf source parentName depth rest).map (ds ++ ·) := by
  rw [findingsOf]
  cases findings source parentName depth t <;> rfl

theorem exists_of_findings {source : Bytes} {parentName : Option String} {depth : Nat} {t : Tree}
    {ds : List Finding} (h : findings source parentName depth t = .ok ds) :
    ∃ found name below es, visit source ⟨t, parentName, depth⟩ = .ok (found, name, below) ∧
      findingsOf source name below t.children = .ok es ∧ ds = found.toList ++ es := by
  rw [findings_eq_bind] at h
  obtain ⟨⟨found, name, below⟩, hvisit, hbelow⟩ := bind_eq_ok_iff.mp h
  obtain ⟨es, hes, rfl⟩ := map_eq_ok_iff.mp hbelow
  exact ⟨found, name, below, es, hvisit, hes, rfl⟩

theorem exists_of_findingsOf_cons {source : Bytes} {parentName : Option String} {depth : Nat}
    {t : Tree} {rest : List Tree} {ds : List Finding}
    (h : findingsOf source parentName depth (t :: rest) = .ok ds) :
    ∃ es fs, findings source parentName depth t = .ok es ∧
      findingsOf source parentName depth rest = .ok fs ∧ ds = es ++ fs := by
  rw [findingsOf_cons] at h
  obtain ⟨es, hes, hrest⟩ := bind_eq_ok_iff.mp h
  obtain ⟨fs, hfs, rfl⟩ := map_eq_ok_iff.mp hrest
  exact ⟨es, fs, hes, hfs, rfl⟩

theorem exists_of_mem_findingsOf {source : Bytes} {parentName : Option String} {depth : Nat}
    {ts : List Tree} {ds : List Finding} (h : findingsOf source parentName depth ts = .ok ds)
    {d : Finding} (hd : d ∈ ds) :
    ∃ t ∈ ts, ∃ es, findings source parentName depth t = .ok es ∧ d ∈ es ∧ ∀ e ∈ es, e ∈ ds := by
  induction ts generalizing ds with
  | nil =>
      rw [findingsOf, Except.ok.injEq] at h
      simp [← h] at hd
  | cons t rest ih =>
      obtain ⟨es, fs, hes, hrest, rfl⟩ := exists_of_findingsOf_cons h
      rcases List.mem_append.mp hd with hd | hd
      · exact ⟨t, List.mem_cons_self, es, hes, hd, fun e he => List.mem_append_left fs he⟩
      · obtain ⟨u, hu, gs, hgs, hdg, hsub⟩ := ih hrest hd
        exact ⟨u, List.mem_cons_of_mem t hu, gs, hgs, hdg,
          fun e he => List.mem_append_right es (hsub e he)⟩

/-- Where a walk ends with findings every node was visited. -/
theorem exists_visit_of_findings {source : Bytes} {t v : Tree} {parentName : Option String}
    {depth : Nat} {ds : List Finding} (h : findings source parentName depth t = .ok ds)
    (hv : v ∈ t.nodes) :
    ∃ parentName depth found, visit source ⟨v, parentName, depth⟩ = .ok found := by
  induction t using Tree.inductionOnChildren generalizing parentName depth ds with
  | step t ih =>
      obtain ⟨found, name, below, es, hvisit, hes, rfl⟩ := exists_of_findings h
      have hbelow : ∀ ts, (∀ c ∈ ts, c ∈ t.children) → ∀ {es},
          findingsOf source name below ts = .ok es → ∀ c ∈ ts, v ∈ c.nodes →
            ∃ parentName depth found, visit source ⟨v, parentName, depth⟩ = .ok found := by
        intro ts hts
        induction ts with
        | nil => exact fun _ c hc => nomatch hc
        | cons c rest ihRest =>
            intro es hes
            obtain ⟨hc, hrest⟩ := List.forall_mem_cons.mp hts
            obtain ⟨ds, fs, hds, hfs, rfl⟩ := exists_of_findingsOf_cons hes
            exact List.forall_mem_cons.mpr ⟨ih c hc hds, ihRest hrest hfs⟩
      rw [Tree.nodes_eq_cons, List.mem_cons, List.mem_flatMap] at hv
      rcases hv with rfl | ⟨c, hc, hv⟩
      · exact ⟨_, _, _, hvisit⟩
      · exact hbelow t.children (fun c hc => hc) hes c hc hv

theorem exists_node_of_mem_findings {source : Bytes} {t : Tree} {parentName : Option String}
    {depth : Nat} {ds : List Finding} (h : findings source parentName depth t = .ok ds)
    {d : Finding} (hd : d ∈ ds) : ∃ v ∈ t.nodes, d.Marks source v := by
  induction t using Tree.inductionOnChildren generalizing parentName depth ds with
  | step t ih =>
      obtain ⟨found, name, below, es, hvisit, hes, rfl⟩ := exists_of_findings h
      rcases List.mem_append.mp hd with hd | hd
      · rcases visit_cases hvisit with ⟨e, rfl, he, -⟩ | ⟨rfl, -⟩
        · rw [Option.toList_some, List.mem_singleton] at hd
          exact ⟨t, t.self_mem_nodes, hd ▸ he⟩
        · simp at hd
      · obtain ⟨c, hc, fs, hfs, hdf, -⟩ := exists_of_mem_findingsOf hes hd
        obtain ⟨v, hv, hmarks⟩ := ih c hc hfs hdf
        exact ⟨v, Tree.mem_nodes_of_child hc hv, hmarks⟩

/-- In a tree with nested ranges, every finding lies in the range of the root and in one of those
that no other finding surrounds. -/
theorem exists_outer_of_mem_findings {source : Bytes} {t : Tree} {parentName : Option String}
    {depth : Nat} {ds : List Finding} (hnested : t.Nested)
    (h : findings source parentName depth t = .ok ds) {d : Finding} (hd : d ∈ ds) :
    t.label.start ≤ d.startByte ∧ d.endByte ≤ t.label.stop ∧
      ∃ e ∈ ds, e.depth = depth ∧ e.startByte ≤ d.startByte ∧ d.endByte ≤ e.endByte := by
  induction t using Tree.inductionOnChildren generalizing parentName depth ds with
  | step t ih =>
      obtain ⟨found, name, below, es, hvisit, hes, rfl⟩ := exists_of_findings h
      have hbelow : d ∈ es → t.label.start ≤ d.startByte ∧ d.endByte ≤ t.label.stop ∧
          ∃ e ∈ es, e.depth = below ∧ e.startByte ≤ d.startByte ∧ d.endByte ≤ e.endByte := by
        intro hde
        obtain ⟨c, hc, fs, hfs, hdf, hsub⟩ := exists_of_mem_findingsOf hes hde
        obtain ⟨hstart, hstop, e, he, hinside⟩ := ih c hc (hnested.child hc) hfs hdf
        have hchild := (hnested t t.self_mem_nodes).2.1 c hc
        exact ⟨Nat.le_trans hchild.1 hstart, Nat.le_trans hstop hchild.2, e, hsub e he, hinside⟩
      rcases visit_cases hvisit with ⟨e, rfl, he, hdepth, -⟩ | ⟨rfl, -, hdepth⟩
      · have hrange : t.label.start ≤ d.startByte ∧ d.endByte ≤ t.label.stop := by
          rcases List.mem_append.mp hd with hd | hd
          · obtain rfl : d = e := by simpa using hd
            exact ⟨Nat.le_of_eq he.startByte.symm, Nat.le_of_eq he.endByte⟩
          · exact ⟨(hbelow hd).1, (hbelow hd).2.1⟩
        refine ⟨hrange.1, hrange.2, e, by simp, hdepth, ?_, ?_⟩
        · rw [he.startByte]
          exact hrange.1
        · rw [he.endByte]
          exact hrange.2
      · obtain rfl : below = depth := hdepth
        exact hbelow (by simpa using hd)

end Dissect.Partition
