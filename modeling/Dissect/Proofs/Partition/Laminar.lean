import Dissect.Proofs.Partition.LineCover

namespace Dissect

open Syntax Text

/-- How something lies in a source: its range of octets, and the number of units around it. -/
structure Extent where
  start : Nat
  stop : Nat
  depth : Nat

def Extent.Inside (x y : Extent) : Prop := y.start ≤ x.start ∧ x.stop ≤ y.stop

def SourceUnit.extent (u : SourceUnit) : Extent := ⟨u.startByte, u.endByte, u.depth⟩

namespace Partition

def Finding.extent (d : Finding) : Extent := ⟨d.startByte, d.endByte, d.depth⟩

/-- Extents in order, of which any two are apart or the later one is the deeper part of the earlier
one. Those of depth zero are apart, and every other one is part of an earlier one of each smaller
depth. -/
structure Laminar (xs : List Extent) : Prop where
  ordered : xs.Pairwise fun x y => x.start ≤ y.start
  nested : xs.Pairwise fun x y => x.stop ≤ y.start ∨ y.Inside x ∧ x.depth < y.depth
  apart : xs.Pairwise fun x y => x.depth = 0 → y.depth = 0 → x.stop ≤ y.start
  surrounded : ∀ front y back, xs = front ++ y :: back → ∀ k < y.depth,
    ∃ x ∈ front, x.depth = k ∧ y.Inside x

/-- Extents within a range, from a depth on, that lie to each other as in a laminar family. -/
structure LaminarFrom (depth start stop : Nat) (xs : List Extent) : Prop where
  within : ∀ x ∈ xs, start ≤ x.start ∧ x.start ≤ x.stop ∧ x.stop ≤ stop ∧ depth ≤ x.depth
  ordered : xs.Pairwise fun x y => x.start ≤ y.start
  nested : xs.Pairwise fun x y => x.stop ≤ y.start ∨ y.Inside x ∧ x.depth < y.depth
  surrounded : ∀ front y back, xs = front ++ y :: back → ∀ k, depth ≤ k → k < y.depth →
    ∃ x ∈ front, x.depth = k ∧ y.Inside x

namespace LaminarFrom

variable {depth start stop : Nat} {xs ys : List Extent}

theorem nil (depth start stop : Nat) : LaminarFrom depth start stop [] where
  within := by simp
  ordered := .nil
  nested := .nil
  surrounded := by simp

theorem mono {start' : Nat} (h : LaminarFrom depth start stop xs) (hle : start' ≤ start) :
    LaminarFrom depth start' stop xs where
  within x hx := ⟨hle.trans (h.within x hx).1, (h.within x hx).2⟩
  ordered := h.ordered
  nested := h.nested
  surrounded := h.surrounded

theorem append {mid : Nat} (hx : LaminarFrom depth start mid xs)
    (hy : LaminarFrom depth mid stop ys) (hstart : start ≤ mid) (hstop : mid ≤ stop) :
    LaminarFrom depth start stop (xs ++ ys) := by
  have hapart : ∀ x ∈ xs, ∀ y ∈ ys, x.start ≤ x.stop ∧ x.stop ≤ y.start := by
    intro x hxmem y hymem
    have := hx.within x hxmem
    have := hy.within y hymem
    omega
  refine ⟨?_, ?_, ?_, ?_⟩
  · intro x hmem
    rcases List.mem_append.mp hmem with hmem | hmem
    · have := hx.within x hmem
      omega
    · have := hy.within x hmem
      omega
  · refine List.pairwise_append.mpr ⟨hx.ordered, hy.ordered, fun x hxmem y hymem => ?_⟩
    have := hapart x hxmem y hymem
    omega
  · refine List.pairwise_append.mpr ⟨hx.nested, hy.nested, fun x hxmem y hymem => ?_⟩
    exact .inl (hapart x hxmem y hymem).2
  · intro front y back heq k hk hlt
    rcases List.append_eq_append_iff.mp heq with ⟨before, rfl, hys⟩ | ⟨after, hxs, hrest⟩
    · obtain ⟨x, hmem, hx⟩ := hy.surrounded before y back hys k hk hlt
      exact ⟨x, List.mem_append_right xs hmem, hx⟩
    · cases after with
      | nil =>
          obtain ⟨x, hmem, -⟩ := hy.surrounded [] y back (by simpa using hrest.symm) k hk hlt
          cases hmem
      | cons z after =>
          obtain ⟨rfl, -⟩ := List.cons.inj hrest
          exact hx.surrounded front y after hxs k hk hlt

/-- A family one deeper than something that surrounds it. -/
theorem cons (h : LaminarFrom (depth + 1) start stop xs) (hle : start ≤ stop) :
    LaminarFrom depth start stop (⟨start, stop, depth⟩ :: xs) := by
  refine ⟨?_, ?_, ?_, ?_⟩
  · refine List.forall_mem_cons.mpr ⟨⟨le_rfl, hle, le_rfl, le_rfl⟩, fun x hx => ?_⟩
    have := h.within x hx
    omega
  · exact List.pairwise_cons.mpr ⟨fun x hx => (h.within x hx).1, h.ordered⟩
  · refine List.pairwise_cons.mpr ⟨fun x hx => .inr ?_, h.nested⟩
    have := h.within x hx
    exact ⟨⟨this.1, this.2.2.1⟩, this.2.2.2⟩
  · intro front y back heq k hk hlt
    cases front with
    | nil =>
        obtain ⟨rfl, -⟩ := List.cons.inj heq
        exact absurd hk (not_le.mpr hlt)
    | cons z front =>
        obtain ⟨rfl, rfl⟩ := List.cons.inj heq
        have hy := h.within y (by simp)
        rcases hk.eq_or_lt with rfl | hk
        · exact ⟨_, List.mem_cons_self, rfl, hy.1, hy.2.2.1⟩
        · obtain ⟨x, hmem, hx⟩ := h.surrounded front y back rfl k hk hlt
          exact ⟨x, List.mem_cons_of_mem _ hmem, hx⟩

theorem laminar (h : LaminarFrom 0 start stop xs) : Laminar xs where
  ordered := h.ordered
  nested := h.nested
  apart := h.nested.imp fun hcases hx hy =>
    hcases.elim id fun ⟨_, hless⟩ => absurd hless (by omega)
  surrounded front y back heq k hlt := h.surrounded front y back heq k k.zero_le hlt

end LaminarFrom

variable {source : Bytes} {parentName : Option String} {depth : Nat} {ds : List Finding}

theorem laminarFrom_findingsOf {start stop : Nat} {ts : List Tree}
    (h : findingsOf source parentName depth ts = .ok ds) (hle : start ≤ stop)
    (hwithin : ∀ t ∈ ts, start ≤ t.label.start ∧ t.label.stop ≤ stop)
    (hordered : ∀ t ∈ ts, t.label.start ≤ t.label.stop)
    (hapart : ts.Pairwise fun s t => s.label.stop ≤ t.label.start)
    (heach : ∀ t ∈ ts, ∀ {es}, findings source parentName depth t = .ok es →
      LaminarFrom depth t.label.start t.label.stop (es.map Finding.extent)) :
    LaminarFrom depth start stop (ds.map Finding.extent) := by
  induction ts generalizing start ds with
  | nil =>
      rw [findingsOf, Except.ok.injEq] at h
      subst h
      exact .nil depth start stop
  | cons t ts ih =>
      obtain ⟨es, fs, hes, hfs, rfl⟩ := exists_of_findingsOf_cons h
      obtain ⟨⟨hstart, hstop⟩, hrest⟩ := List.forall_mem_cons.mp hwithin
      obtain ⟨hbehind, hapart⟩ := List.pairwise_cons.mp hapart
      have hle' := hordered t List.mem_cons_self
      have htail : LaminarFrom depth t.label.stop stop (fs.map Finding.extent) :=
        ih hfs hstop (fun u hu => ⟨hbehind u hu, (hrest u hu).2⟩)
          (fun u hu => hordered u (List.mem_cons_of_mem t hu)) hapart
          fun u hu => heach u (List.mem_cons_of_mem t hu)
      have hhead := (heach t List.mem_cons_self hes).mono hstart
      rw [List.map_append]
      exact hhead.append htail (hstart.trans hle') hstop

theorem laminarFrom_findings {t : Tree} (hnested : t.Nested)
    (h : findings source parentName depth t = .ok ds) :
    LaminarFrom depth t.label.start t.label.stop (ds.map Finding.extent) := by
  induction t using Tree.inductionOnChildren generalizing parentName depth ds with
  | step t ih =>
      obtain ⟨found, name, below, es, hvisit, hes, rfl⟩ := exists_of_findings h
      obtain ⟨hle, hwithin, hapart⟩ := hnested t t.self_mem_nodes
      have hbelow : LaminarFrom below t.label.start t.label.stop (es.map Finding.extent) :=
        laminarFrom_findingsOf hes hle hwithin
          (fun c hc => (hnested.child hc c c.self_mem_nodes).1) hapart
          fun c hc _ hfound => ih c hc (hnested.child hc) hfound
      rcases visit_cases hvisit with ⟨d, rfl, hd, hdepth, rfl⟩ | ⟨rfl, -, rfl⟩
      · have hextent : d.extent = ⟨t.label.start, t.label.stop, depth⟩ := by
          rw [Finding.extent, hd.startByte, hd.endByte, hdepth]
        rw [Option.toList_some, List.singleton_append, List.map_cons, hextent]
        exact hbelow.cons hle
      · exact hbelow

theorem map_extent_unitsOf (source : Bytes) (found : List Finding) :
    (unitsOf source found).map SourceUnit.extent = found.map Finding.extent := by
  refine List.ext_getElem (by simp [unitsOf]) fun i hi hi' => ?_
  simp [unitsOf, unitOf, SourceUnit.extent, Finding.extent]

theorem Swept.filter_ne_base {p : Partition} {units : List SourceUnit} {text : String}
    (h : p.Swept units text) : p.units.filter (·.kind != .base) = units := by
  have hunits : units.filter (·.kind != .base) = units :=
    List.filter_eq_self.mpr fun u hu => bne_iff_ne.mpr (h.kind u hu)
  rw [h.units_eq, List.filter_append, hunits]
  cases hbase : unclaimedUnit? units text p.lineCount with
  | none => simp
  | some u => simp [(isSweepUnit_of_eq_some hbase).kind]

/-- The units of a partition, the base unit apart, form a laminar family. -/
theorem split_isLaminar {parse : Parser} {strict : Bool} {source : Bytes} {file : String}
    {p : Partition} {root : Tree} (hsplit : split parse strict source file = .ok p)
    (hparse : parse source = some root) (hroot : root.Nested) :
    Laminar ((p.units.filter (·.kind != .base)).map SourceUnit.extent) := by
  obtain ⟨text, found, -, hfound, -, h⟩ := swept_of_split hsplit hparse fun t ht => (hroot t ht).1
  rw [traverse_eq_findings] at hfound
  rw [h.filter_ne_base, map_extent_unitsOf]
  exact (laminarFrom_findings hroot hfound).laminar

/-- A declaration that takes up all of its export, and an empty function behind both. -/
def exported : Tree :=
  .node ⟨"program", true, false, false, 0, 6, none⟩
    [.node ⟨"export_statement", true, false, false, 0, 6, none⟩
        [.node ⟨"lexical_declaration", true, false, false, 0, 6, none⟩ []],
      .node ⟨"arrow_function", true, false, false, 6, 6, none⟩ []]

theorem split_exported_isLaminar :
    ∃ p, split (fun _ => some exported) true (Utf8.encode "let a;") "input.js" = .ok p ∧
      exported.Nested ∧
      (p.units.filter (·.kind != .base)).map SourceUnit.extent = [⟨0, 6, 0⟩, ⟨0, 6, 1⟩, ⟨6, 6, 0⟩] ∧
      Laminar ((p.units.filter (·.kind != .base)).map SourceUnit.extent) := by
  have hfound : ∃ found, traverse (Utf8.encode "let a;") exported = .ok found ∧
      found.map Finding.extent = [⟨0, 6, 0⟩, ⟨0, 6, 1⟩, ⟨6, 6, 0⟩] := by
    rw [traverse_eq_findings]
    exact ⟨_, rfl, rfl⟩
  obtain ⟨found, hfound, hextents⟩ := hfound
  have hsplit : ∃ p,
      split (fun _ => some exported) true (Utf8.encode "let a;") "input.js" = .ok p := by
    rw [split, Utf8.decode_eq_ok_iff.mpr rfl]
    simp only [ofTree, hfound]
    exact ⟨_, rfl⟩
  obtain ⟨p, hp⟩ := hsplit
  have hnested : exported.Nested := by decide
  obtain ⟨text, found', -, hfound', -, h⟩ := swept_of_split hp rfl fun t ht => (hnested t ht).1
  obtain rfl : found = found' := Except.ok.inj (hfound.symm.trans hfound')
  refine ⟨p, hp, hnested, ?_, split_isLaminar hp rfl hnested⟩
  rw [h.filter_ne_base, map_extent_unitsOf, hextents]

end Partition

end Dissect
