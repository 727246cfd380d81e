import Dissect.Proofs.Outcome
import Dissect.Proofs.Output.Stubs
import Mathlib.Data.List.Forall2
import Mathlib.Data.List.Sort

/-!
Stubs that are put in from the back of a text to its front stand where one pass from front to back
puts them: each in front of its function or method, with the text between them as it was, so that
taking them out gives the text back.
-/

namespace Dissect.Output

open Syntax Text

/-- The octets from `position` on, with each block in front of the octet at its offset. -/
def mergeFrom (source : Bytes) (position : Nat) : List Insertion → Bytes
  | [] => source.drop position
  | (offset, block) :: rest =>
      Utf8.slice source position offset ++ block ++ mergeFrom source offset rest

/-- Octets that start at `position` of a source, without the blocks that stand at its offsets;
nothing if a block does not stand there. -/
def takeOut (position : Nat) : List Insertion → Bytes → Option Bytes
  | [], merged => some merged
  | (offset, block) :: rest, merged =>
      let behind := merged.drop (offset - position)
      if block.isPrefixOf behind then
        (takeOut offset rest (behind.drop block.length)).map (merged.take (offset - position) ++ ·)
      else none

variable {source : Bytes} {is : List Insertion}

theorem take_append_slice {position offset : Nat} (h : position ≤ offset) :
    source.take position ++ Utf8.slice source position offset = source.take offset := by
  rw [Utf8.slice, ← List.take_append_drop position (source.take offset), List.take_take,
    Nat.min_eq_left h, List.drop_take]

theorem slice_append_drop {position offset : Nat} (h : position ≤ offset) :
    Utf8.slice source position offset ++ source.drop offset = source.drop position := by
  have hdrop : (source.drop position).drop (offset - position) = source.drop offset := by
    rw [List.drop_drop, Nat.add_sub_cancel' h]
  rw [Utf8.slice, ← hdrop, List.take_append_drop]

theorem length_slice {position offset : Nat} (h : offset ≤ source.length) :
    (Utf8.slice source position offset).length = offset - position := by
  rw [Utf8.slice, List.length_take, List.length_drop]
  omega

theorem foldr_insertAt {position : Nat} (hordered : is.Pairwise fun a b => a.1 < b.1)
    (hfrom : ∀ i ∈ is, position ≤ i.1) (hto : ∀ i ∈ is, i.1 ≤ source.length) :
    is.foldr (fun i merged => insertAt merged i) source
      = source.take position ++ mergeFrom source position is := by
  induction is generalizing position with
  | nil => exact (List.take_append_drop position source).symm
  | cons i rest ih =>
      obtain ⟨offset, block⟩ := i
      obtain ⟨hbehind, hordered⟩ := List.pairwise_cons.mp hordered
      have hposition : position ≤ offset := hfrom _ List.mem_cons_self
      have hlength : (source.take offset).length = offset :=
        List.length_take_of_le (hto _ List.mem_cons_self)
      have hrest := ih hordered (fun i hi => Nat.le_of_lt (hbehind i hi))
        fun i hi => hto i (List.mem_cons_of_mem _ hi)
      -- With the blocks behind it in place, the text up to `offset` is still that of the source.
      rw [List.foldr_cons, hrest, insertAt, List.take_left' hlength, List.drop_left' hlength,
        mergeFrom, ← take_append_slice hposition]
      simp only [List.append_assoc]

/-- What is taken out again leaves the source from `position` on. -/
theorem takeOut_mergeFrom {position : Nat} (hordered : is.Pairwise fun a b => a.1 < b.1)
    (hfrom : ∀ i ∈ is, position ≤ i.1) (hto : ∀ i ∈ is, i.1 ≤ source.length) :
    takeOut position is (mergeFrom source position is) = some (source.drop position) := by
  induction is generalizing position with
  | nil => rfl
  | cons i rest ih =>
      obtain ⟨offset, block⟩ := i
      obtain ⟨hbehind, hordered⟩ := List.pairwise_cons.mp hordered
      have hposition : position ≤ offset := hfrom _ List.mem_cons_self
      have hlength : (Utf8.slice source position offset).length = offset - position :=
        length_slice (hto _ List.mem_cons_self)
      have hrest := ih hordered (fun i hi => Nat.le_of_lt (hbehind i hi))
        fun i hi => hto i (List.mem_cons_of_mem _ hi)
      have hprefix : block.isPrefixOf (block ++ mergeFrom source offset rest) = true :=
        List.isPrefixOf_iff_prefix.mpr (List.prefix_append _ _)
      rw [mergeFrom, List.append_assoc, takeOut]
      simp only [List.take_left' hlength, List.drop_left' hlength, hprefix, if_true,
        List.drop_left, hrest, Option.map_some, slice_append_drop hposition]

theorem mergeSort_insertionGe {ordered : List Insertion} (hperm : ordered.Perm is)
    (hordered : ordered.Pairwise fun a b => a.1 < b.1) :
    is.mergeSort insertionGe = ordered.reverse := by
  have hsorted : (is.mergeSort insertionGe).Pairwise fun a b => b.1 ≤ a.1 ∧ a.1 ≠ b.1 := by
    have hapart : is.Pairwise fun a b => a.1 ≠ b.1 :=
      hperm.pairwise (hordered.imp Nat.ne_of_lt) Ne.symm
    exact (pairwise_mergeSort_insertionGe is).and
      ((List.mergeSort_perm is insertionGe).symm.pairwise hapart Ne.symm)
  have hreversed : ordered.reverse.Pairwise fun a b => b.1 ≤ a.1 ∧ a.1 ≠ b.1 :=
    List.pairwise_reverse.mpr (hordered.imp fun h => ⟨Nat.le_of_lt h, (Nat.ne_of_lt h).symm⟩)
  refine List.Perm.eq_of_pairwise (fun a b _ _ hab hba => ?_) hsorted hreversed ?_
  · exact absurd (Nat.le_antisymm hba.1 hab.1) hab.2
  · exact (List.mergeSort_perm is insertionGe).trans (hperm.symm.trans (List.reverse_perm _).symm)

/-- Insertions from back to front come to one pass from front to back. -/
theorem insertAll_eq_mergeFrom {ordered : List Insertion} (hperm : ordered.Perm is)
    (hordered : ordered.Pairwise fun a b => a.1 < b.1)
    (hto : ∀ i ∈ is, i.1 ≤ source.length) :
    insertAll source is = mergeFrom source 0 ordered := by
  rw [insertAll, mergeSort_insertionGe hperm hordered, List.foldl_reverse,
    foldr_insertAt hordered (fun i _ => i.1.zero_le) fun i hi => hto i (hperm.mem_iff.mp hi)]
  rfl

def stubLines (name : String) (parameters : List String) : List String :=
  "/**" :: (" * Function " ++ name) ::
    (parameters.map (" * @param \x7bany\x7d " ++ ·) ++ [" * @returns \x7bany\x7d", " */"])

def plainParameters (t : Tree) : List Tree :=
  ((t.child? "parameters").elim [] Tree.children).filter (·.label.type == "identifier")

/-- The name in the stub of a node: the text of its name, or `anonymous` without one. -/
def IsStubName (source : Bytes) (t : Tree) (name : String) : Prop :=
  match t.child? "name" with
  | none => name = "anonymous"
  | some c => c.text source = .ok name

/-- The block is the stub of a node: lines for its name and for its plain parameters in order. -/
def IsStubOf (source : Bytes) (t : Tree) (block : String) : Prop :=
  ∃ name parameters, IsStubName source t name ∧
    List.Forall₂ (fun c p => c.text source = .ok p) (plainParameters t) parameters ∧
    block = String.join ((stubLines name parameters).map (· ++ "\n"))

theorem stub_eq (name : String) (parameters : List String) :
    stub name parameters = String.join ((stubLines name parameters).map (· ++ "\n")) := by
  have hfirst : "/**\n * Function " = "/**" ++ "\n" ++ " * Function " := rfl
  have hlast : " * @returns \x7bany\x7d\n */\n"
      = " * @returns \x7bany\x7d" ++ "\n" ++ (" */" ++ "\n") := rfl
  unfold stub
  rw [hfirst, hlast, stubLines, List.map_cons, List.map_cons, List.map_append, List.map_map]
  simp only [String.join_cons, String.join_append, List.map_cons, List.map_nil, String.join_nil,
    String.append_assoc, Function.comp_def, String.append_empty]

theorem texts_eq_ok_iff {ts : List Tree} {names : List String} :
    texts source ts = .ok names ↔ List.Forall₂ (fun t n => t.text source = .ok n) ts names := by
  induction ts generalizing names with
  | nil =>
      rw [texts, List.forall₂_nil_left_iff, Except.ok.injEq]
      exact eq_comm
  | cons t rest ih =>
      rw [texts, bind_eq_ok_iff, List.forall₂_cons_left_iff]
      constructor
      · rintro ⟨name, hname, htail⟩
        obtain ⟨more, hmore, hnames⟩ := bind_eq_ok_iff.mp htail
        exact ⟨name, more, hname, ih.mp hmore, (Except.ok.inj hnames).symm⟩
      · rintro ⟨name, more, hname, hmore, rfl⟩
        exact ⟨name, hname, bind_eq_ok_iff.mpr ⟨more, ih.mpr hmore, rfl⟩⟩

theorem isStubName_iff {t : Tree} {name : String} :
    IsStubName source t name ↔
      (t.child? "name").elim (.ok "anonymous") (·.text source) = .ok name := by
  rw [IsStubName]
  cases t.child? "name" with
  | none => exact eq_comm.trans (Except.ok.injEq _ _).symm.to_iff
  | some c => rfl

theorem stubOf_eq_ok_iff {t : Tree} {block : String} :
    stubOf source t = .ok block ↔ IsStubOf source t block := by
  rw [stubOf, bind_eq_ok_iff]
  constructor
  · rintro ⟨name, hname, htail⟩
    obtain ⟨parameters, hparameters, hblock⟩ := bind_eq_ok_iff.mp htail
    refine ⟨name, parameters, isStubName_iff.mpr hname, texts_eq_ok_iff.mp hparameters, ?_⟩
    rw [← stub_eq]
    exact (Except.ok.inj hblock).symm
  · rintro ⟨name, parameters, hname, hparameters, rfl⟩
    refine ⟨name, isStubName_iff.mp hname, bind_eq_ok_iff.mpr ⟨parameters, ?_, ?_⟩⟩
    · exact texts_eq_ok_iff.mpr hparameters
    · rw [← stub_eq]
      rfl

def stubbedNodes (root : Tree) : List Tree := root.children.filter (takesStub ·.label.type)

def blockAt (s : Tree × String) : Insertion := (s.1.label.start, Utf8.encode s.2)

theorem insertions_eq_ok_iff {ts : List Tree} :
    insertions source ts = .ok is ↔ ∃ stubs : List (Tree × String),
      stubs.map Prod.fst = ts.filter (takesStub ·.label.type) ∧
        (∀ s ∈ stubs, IsStubOf source s.1 s.2) ∧ is = stubs.map blockAt := by
  induction ts generalizing is with
  | nil =>
      rw [insertions, Except.ok.injEq, List.filter_nil]
      constructor
      · rintro rfl
        exact ⟨[], rfl, by simp, rfl⟩
      · rintro ⟨stubs, hnodes, -, rfl⟩
        rw [List.map_eq_nil_iff.mp hnodes]
        rfl
  | cons t rest ih =>
      rw [insertions, List.filter_cons]
      split
      · rw [bind_eq_ok_iff]
        constructor
        · rintro ⟨block, hblock, htail⟩
          obtain ⟨more, hmore, his⟩ := bind_eq_ok_iff.mp htail
          obtain ⟨stubs, hnodes, hstubs, rfl⟩ := ih.mp hmore
          refine ⟨(t, block) :: stubs, by rw [List.map_cons, hnodes], ?_, ?_⟩
          · exact List.forall_mem_cons.mpr ⟨stubOf_eq_ok_iff.mp hblock, hstubs⟩
          · exact (Except.ok.inj his).symm
        · rintro ⟨stubs, hnodes, hstubs, rfl⟩
          obtain ⟨⟨t', block⟩, more, rfl, rfl, hmore⟩ := List.map_eq_cons_iff.mp hnodes
          obtain ⟨hblock, hstubs⟩ := List.forall_mem_cons.mp hstubs
          have hrest := ih.mpr ⟨more, hmore, hstubs, rfl⟩
          exact ⟨block, stubOf_eq_ok_iff.mpr hblock, bind_eq_ok_iff.mpr ⟨_, hrest, rfl⟩⟩
      · exact ih

theorem exists_stubs {nodes : List Tree} (h : ∀ t ∈ nodes, ∃ block, IsStubOf source t block) :
    ∃ stubs : List (Tree × String), stubs.map Prod.fst = nodes ∧
      ∀ s ∈ stubs, IsStubOf source s.1 s.2 := by
  induction nodes with
  | nil => exact ⟨[], rfl, by simp⟩
  | cons t rest ih =>
      obtain ⟨⟨block, hblock⟩, hrest⟩ := List.forall_mem_cons.mp h
      obtain ⟨stubs, rfl, hstubs⟩ := ih hrest
      exact ⟨(t, block) :: stubs, rfl, List.forall_mem_cons.mpr ⟨hblock, hstubs⟩⟩

/-- The text is a code with a stub in front of each of several nodes and nothing else: the stubs
stand in the order of the nodes in the source, and without them the text is the code. -/
structure IsStubbed (code : String) (nodes : List Tree) (stubs : List (Tree × String))
    (text : String) : Prop where
  nodes : (stubs.map Prod.fst).Perm nodes
  stub : ∀ s ∈ stubs, IsStubOf (Utf8.encode code) s.1 s.2
  ordered : stubs.Pairwise fun a b => a.1.label.start < b.1.label.start
  merged : Utf8.encode text = mergeFrom (Utf8.encode code) 0 (stubs.map blockAt)
  restored : takeOut 0 (stubs.map blockAt) (Utf8.encode text) = some (Utf8.encode code)

theorem addStubs_eq_ok_iff {parse : Parser} {code text : String} {root : Tree}
    (hroot : parse (Utf8.encode code) = some root) :
    addStubs parse code = .ok text ↔
      ∃ is, insertions (Utf8.encode code) root.children = .ok is ∧
        insertAll (Utf8.encode code) is = Utf8.encode text := by
  rw [addStubs]
  simp only [hroot]
  cases hinsertions : insertions (Utf8.encode code) root.children with
  | error f => simp
  | ok is =>
      simp only [Except.ok.injEq, exists_eq_left', ← Utf8.decode_eq_ok_iff]
      exact mapError_eq_ok_iff

theorem start_le_length {code : String} {t : Tree} (h : Utf8.IsBoundary code t.label.start) :
    t.label.start ≤ (Utf8.encode code).length := by
  obtain ⟨front, back, rfl, hfront⟩ := h
  rw [Utf8.encode_append, List.length_append, hfront]
  exact Nat.le_add_right _ _

theorem exists_ordered {stubs : List (Tree × String)}
    (h : ((stubs.map Prod.fst).map (·.label.start)).Nodup) :
    ∃ ordered : List (Tree × String), ordered.Perm stubs ∧
      ordered.Pairwise fun a b => a.1.label.start < b.1.label.start := by
  let inSource := Order.Preimage (fun s : Tree × String => s.1.label.start) (· ≤ ·)
  have hperm : (stubs.mergeSort (inSource · ·)).Perm stubs := List.mergeSort_perm _ _
  have hsorted : (stubs.mergeSort (inSource · ·)).Pairwise inSource :=
    List.pairwise_mergeSort' inSource stubs
  have hapart : (stubs.mergeSort (inSource · ·)).Pairwise
      fun a b => a.1.label.start ≠ b.1.label.start := by
    rw [List.map_map, List.nodup_iff_pairwise_ne, List.pairwise_map] at h
    exact hperm.symm.pairwise h Ne.symm
  refine ⟨stubs.mergeSort (inSource · ·), hperm, (hsorted.and hapart).imp fun ⟨hle, hne⟩ => ?_⟩
  exact Nat.lt_of_le_of_ne hle hne

theorem isStubbed_of_insertAll {code text : String} {stubs : List (Tree × String)}
    (hstubs : ∀ s ∈ stubs, IsStubOf (Utf8.encode code) s.1 s.2)
    (hcuts : ∀ s ∈ stubs, Utf8.IsBoundary code s.1.label.start)
    (hapart : ((stubs.map Prod.fst).map (·.label.start)).Nodup)
    (htext : insertAll (Utf8.encode code) (stubs.map blockAt) = Utf8.encode text) :
    ∃ ordered, IsStubbed code (stubs.map Prod.fst) ordered text := by
  obtain ⟨ordered, hperm, hordered⟩ := exists_ordered hapart
  have hblocks : (ordered.map blockAt).Pairwise fun a b => a.1 < b.1 :=
    List.pairwise_map.mpr hordered
  have hto : ∀ i ∈ stubs.map blockAt, i.1 ≤ (Utf8.encode code).length := by
    intro i hi
    obtain ⟨s, hs, rfl⟩ := List.mem_map.mp hi
    exact start_le_length (hcuts s hs)
  have hmerged := insertAll_eq_mergeFrom (hperm.map blockAt) hblocks hto
  rw [htext] at hmerged
  refine ⟨ordered, hperm.map Prod.fst, fun s hs => hstubs s (hperm.mem_iff.mp hs), hordered,
    hmerged, ?_⟩
  rw [hmerged]
  exact takeOut_mergeFrom hblocks (fun i _ => i.1.zero_le)
    fun i hi => hto i ((hperm.map blockAt).mem_iff.mp hi)

/-- Stubs are added to a text exactly if the names in them can be read, and then one stands in front
of each function and method at the top of the tree. -/
theorem addStubs_isStubbed {parse : Parser} {code : String} {root : Tree}
    (hroot : parse (Utf8.encode code) = some root)
    (hcuts : ∀ t ∈ root.children, Utf8.IsBoundary code t.label.start)
    (hapart : ((stubbedNodes root).map (·.label.start)).Nodup) :
    ((∃ text, addStubs parse code = .ok text) ↔
        ∀ t ∈ stubbedNodes root, ∃ block, IsStubOf (Utf8.encode code) t block) ∧
      ∀ text, addStubs parse code = .ok text →
        ∃ stubs, IsStubbed code (stubbedNodes root) stubs text := by
  have hcuts' : ∀ t ∈ stubbedNodes root, Utf8.IsBoundary code t.label.start :=
    fun t ht => hcuts t (List.mem_filter.mp ht).1
  refine ⟨⟨?_, fun hblocks => ?_⟩, fun text htext => ?_⟩
  · rintro ⟨text, htext⟩ t ht
    obtain ⟨is, his, -⟩ := (addStubs_eq_ok_iff hroot).mp htext
    obtain ⟨stubs, hnodes, hstubs, -⟩ := insertions_eq_ok_iff.mp his
    rw [stubbedNodes, ← hnodes] at ht
    obtain ⟨s, hs, rfl⟩ := List.mem_map.mp ht
    exact ⟨s.2, hstubs s hs⟩
  · obtain ⟨stubs, hnodes, hstubs⟩ := exists_stubs hblocks
    have hfits : ∀ i ∈ stubs.map blockAt, Fits code i := by
      intro i hi
      obtain ⟨s, hs, rfl⟩ := List.mem_map.mp hi
      exact ⟨hcuts' s.1 (hnodes ▸ List.mem_map_of_mem hs), s.2, rfl⟩
    obtain ⟨text, htext⟩ := exists_insertAll hfits
    exact ⟨text, (addStubs_eq_ok_iff hroot).mpr
      ⟨_, insertions_eq_ok_iff.mpr ⟨stubs, hnodes, hstubs, rfl⟩, htext⟩⟩
  · obtain ⟨is, his, hinsert⟩ := (addStubs_eq_ok_iff hroot).mp htext
    obtain ⟨stubs, hnodes, hstubs, rfl⟩ := insertions_eq_ok_iff.mp his
    rw [stubbedNodes, ← hnodes] at hcuts' hapart ⊢
    exact isStubbed_of_insertAll hstubs
      (fun s hs => hcuts' s.1 (List.mem_map_of_mem hs)) hapart hinsert

def twoFunctions : Tree :=
  .node ⟨"program", true, false, false, 0, 36, none⟩
    [.node ⟨"comment", true, false, false, 0, 6, none⟩ [],
      .node ⟨"function_declaration", true, false, false, 6, 21, none⟩
        [.node ⟨"identifier", true, false, false, 15, 16, some "name"⟩ [],
          .node ⟨"formal_parameters", true, false, false, 16, 19, some "parameters"⟩
            [.node ⟨"(", false, false, false, 16, 17, none⟩ [],
              .node ⟨"identifier", true, false, false, 17, 18, none⟩ [],
              .node ⟨")", false, false, false, 18, 19, none⟩ []]],
      .node ⟨"function_declaration", true, false, false, 22, 36, none⟩
        [.node ⟨"identifier", true, false, false, 31, 32, some "name"⟩ [],
          .node ⟨"formal_parameters", true, false, false, 32, 34, some "parameters"⟩ []]]

theorem addStubs_isStubbed_twoFunctions :
    let code := "/*é*/function f(a){}\nfunction g(){}"
    let parse : Parser := fun _ => some twoFunctions
    (∀ t ∈ twoFunctions.children, Utf8.IsBoundary code t.label.start) ∧
      ((stubbedNodes twoFunctions).map (·.label.start)).Nodup ∧
      ∃ text stubs, addStubs parse code = .ok text ∧
        IsStubbed code (stubbedNodes twoFunctions) stubs text := by
  intro code parse
  have hcuts : ∀ t ∈ twoFunctions.children, Utf8.IsBoundary code t.label.start := by
    simp only [twoFunctions, Tree.children, List.forall_mem_cons, Tree.label, List.not_mem_nil,
      false_implies, implies_true, and_true]
    exact ⟨⟨"", code, rfl, rfl⟩, ⟨"/*é*/", "function f(a){}\nfunction g(){}", rfl, rfl⟩,
      ⟨"/*é*/function f(a){}\n", "function g(){}", rfl, rfl⟩⟩
  have hapart : ((stubbedNodes twoFunctions).map (·.label.start)).Nodup := by decide
  have hread : ∀ t ∈ stubbedNodes twoFunctions,
      ∃ block, stubOf (Utf8.encode code) t = .ok block := by
    decide +kernel
  have hblocks : ∀ t ∈ stubbedNodes twoFunctions, ∃ block, IsStubOf (Utf8.encode code) t block :=
    fun t ht => (hread t ht).imp fun _ => stubOf_eq_ok_iff.mp
  have hroot : parse (Utf8.encode code) = some twoFunctions := rfl
  obtain ⟨hreads, hstubbed⟩ := addStubs_isStubbed hroot hcuts hapart
  obtain ⟨text, htext⟩ := hreads.mpr hblocks
  obtain ⟨stubs, hstubs⟩ := hstubbed text htext
  exact ⟨hcuts, hapart, text, stubs, htext, hstubs⟩

end Dissect.Output
