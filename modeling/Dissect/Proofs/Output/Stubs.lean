import Dissect.Output.UnitFile
import Dissect.Proofs.Outcome
import Dissect.Proofs.Syntax.Nodes
import Dissect.Proofs.Text.Boundaries

namespace Dissect

open Text

/-- The ranges of all nodes of a tree cut no character of the text. -/
def Syntax.Tree.CutsNoChar (text : String) (t : Tree) : Prop :=
  ∀ v ∈ t.nodes, Utf8.IsBoundary text v.label.start ∧ Utf8.IsBoundary text v.label.stop

theorem Syntax.Tree.CutsNoChar.child {text : String} {t c : Tree} (h : t.CutsNoChar text)
    (hc : c ∈ t.children) : c.CutsNoChar text :=
  fun v hv => h v (mem_nodes_of_child hc hv)

namespace Output

open Syntax

theorem exists_text {text : String} {t : Tree} (h : t.CutsNoChar text) :
    ∃ s, t.text (Utf8.encode text) = .ok s := by
  obtain ⟨hstart, hstop⟩ := h t t.self_mem_nodes
  obtain ⟨s, hs⟩ := Utf8.exists_slice hstart hstop
  exact ⟨s, Utf8.decode_eq_ok_iff.mpr hs⟩

theorem exists_texts {text : String} {ts : List Tree} (h : ∀ t ∈ ts, t.CutsNoChar text) :
    ∃ ss, texts (Utf8.encode text) ts = .ok ss := by
  induction ts with
  | nil => exact ⟨[], rfl⟩
  | cons t rest ih =>
      obtain ⟨ht, hrest⟩ := List.forall_mem_cons.mp h
      obtain ⟨s, hs⟩ := exists_text ht
      obtain ⟨ss, hss⟩ := ih hrest
      exact ⟨s :: ss, bind_eq_ok_iff.mpr ⟨s, hs, bind_eq_ok_iff.mpr ⟨ss, hss, rfl⟩⟩⟩

theorem exists_stubOf {text : String} {t : Tree} (h : t.CutsNoChar text) :
    ∃ s, stubOf (Utf8.encode text) t = .ok s := by
  have hname : ∃ name, (t.child? "name").elim (.ok "anonymous") (·.text (Utf8.encode text))
      = .ok name := by
    cases hchild : t.child? "name" with
    | none => exact ⟨"anonymous", rfl⟩
    | some c => exact exists_text (h.child (Tree.mem_children_of_child? hchild))
  have hparameters : ∃ names, texts (Utf8.encode text)
      (((t.child? "parameters").elim [] Tree.children).filter (·.label.type == "identifier"))
      = .ok names := by
    refine exists_texts fun c hc => ?_
    cases hchild : t.child? "parameters" with
    | none => simp [hchild] at hc
    | some d =>
        rw [hchild] at hc
        exact (h.child (Tree.mem_children_of_child? hchild)).child (List.mem_filter.mp hc).1
  obtain ⟨name, hname⟩ := hname
  obtain ⟨names, hnames⟩ := hparameters
  exact ⟨stub name names, bind_eq_ok_iff.mpr ⟨name, hname, bind_eq_ok_iff.mpr ⟨names, hnames, rfl⟩⟩⟩

/-- A text is put in at an offset that cuts no character. -/
def Fits (text : String) (i : Insertion) : Prop :=
  Utf8.IsBoundary text i.1 ∧ ∃ s, i.2 = Utf8.encode s

theorem exists_insertions {text : String} {ts : List Tree} (h : ∀ t ∈ ts, t.CutsNoChar text) :
    ∃ is, insertions (Utf8.encode text) ts = .ok is ∧ ∀ i ∈ is, Fits text i := by
  induction ts with
  | nil => exact ⟨[], rfl, by simp⟩
  | cons t rest ih =>
      obtain ⟨ht, hrest⟩ := List.forall_mem_cons.mp h
      obtain ⟨is, his, hfits⟩ := ih hrest
      rw [insertions]
      split
      · obtain ⟨s, hs⟩ := exists_stubOf ht
        refine ⟨(t.label.start, Utf8.encode s) :: is, ?_, ?_⟩
        · exact bind_eq_ok_iff.mpr ⟨s, hs, bind_eq_ok_iff.mpr ⟨is, his, rfl⟩⟩
        · exact List.forall_mem_cons.mpr ⟨⟨(ht t t.self_mem_nodes).1, s, rfl⟩, hfits⟩
      · exact ⟨is, his, hfits⟩

theorem octetsLe_total (a b : Bytes) : octetsLe a b || octetsLe b a := by
  induction a generalizing b with
  | nil => rfl
  | cons x xs ih =>
      cases b with
      | nil => rfl
      | cons y ys =>
          have hrest := ih ys
          simp only [octetsLe, Bool.or_eq_true, Bool.and_eq_true, decide_eq_true_eq, beq_iff_eq,
            UInt8.lt_iff_toNat_lt, ← UInt8.toNat_inj] at hrest ⊢
          grind

theorem octetsLe_trans {a b c : Bytes} (hab : octetsLe a b) (hbc : octetsLe b c) :
    octetsLe a c := by
  induction a generalizing b c with
  | nil => rfl
  | cons x xs ih =>
      cases b with
      | nil => cases hab
      | cons y ys =>
          cases c with
          | nil => cases hbc
          | cons z zs =>
              have hrest := @ih ys zs
              simp only [octetsLe, Bool.or_eq_true, Bool.and_eq_true, decide_eq_true_eq,
                beq_iff_eq, UInt8.lt_iff_toNat_lt, ← UInt8.toNat_inj] at hab hbc hrest ⊢
              grind

theorem pairwise_mergeSort_insertionGe (is : List Insertion) :
    (is.mergeSort insertionGe).Pairwise fun a b => b.1 ≤ a.1 := by
  refine (List.pairwise_mergeSort ?_ ?_ is).imp ?_
  · intro a b c hab hbc
    have hoctets := @octetsLe_trans c.2 b.2 a.2
    simp only [insertionGe, Bool.or_eq_true, Bool.and_eq_true, decide_eq_true_eq, beq_iff_eq]
      at hab hbc hoctets ⊢
    grind
  · intro a b
    have hoctets := octetsLe_total a.2 b.2
    simp only [insertionGe, Bool.or_eq_true, Bool.and_eq_true, decide_eq_true_eq, beq_iff_eq]
      at hoctets ⊢
    grind
  · intro a b hab
    simp only [insertionGe, Bool.or_eq_true, Bool.and_eq_true, decide_eq_true_eq, beq_iff_eq]
      at hab
    grind

/-- What was put in so far stands behind a front of the text in which the others still go. -/
theorem exists_foldl_insertAt {text front back done : String} {is : List Insertion}
    (htext : text = front ++ back) (hfits : ∀ i ∈ is, Fits text i)
    (hsorted : is.Pairwise fun a b => b.1 ≤ a.1)
    (hfront : ∀ i ∈ is, i.1 ≤ (Utf8.encode front).length) :
    ∃ s, is.foldl insertAt (Utf8.encode (front ++ done)) = Utf8.encode s := by
  induction is generalizing front back done with
  | nil => exact ⟨front ++ done, rfl⟩
  | cons i is ih =>
      obtain ⟨⟨⟨a, b, hab, ha⟩, s, hs⟩, hrest⟩ := List.forall_mem_cons.mp hfits
      obtain ⟨hfirst, hsorted⟩ := List.pairwise_cons.mp hsorted
      obtain ⟨m, rfl, rfl⟩ : ∃ m, front = a ++ m ∧ b = m ++ back :=
        Utf8.exists_front_of_le (hab.symm.trans htext)
          (Nat.le_trans (Nat.le_of_eq ha) (hfront i List.mem_cons_self))
      have hinsert : insertAt (Utf8.encode (a ++ m ++ done)) i
          = Utf8.encode (a ++ (s ++ m ++ done)) := by
        rw [insertAt, hs, ← ha, String.append_assoc, Utf8.encode_append, List.take_left,
          List.drop_left]
        simp only [Utf8.encode_append, List.append_assoc]
      rw [List.foldl_cons, hinsert]
      refine ih hab hrest hsorted fun j hj => ?_
      rw [ha]
      exact hfirst j hj

theorem exists_insertAll {text : String} {is : List Insertion} (h : ∀ i ∈ is, Fits text i) :
    ∃ s, insertAll (Utf8.encode text) is = Utf8.encode s := by
  have hbound : ∀ i ∈ is, i.1 ≤ (Utf8.encode text).length := by
    intro i hi
    obtain ⟨⟨front, back, rfl, hlength⟩, -⟩ := h i hi
    rw [Utf8.encode_append, List.length_append, hlength]
    exact Nat.le_add_right _ _
  have hall := @exists_foldl_insertAt text text "" "" _ String.append_empty.symm
    (fun i hi => h i (List.mem_mergeSort.mp hi)) (pairwise_mergeSort_insertionGe is)
    (fun i hi => hbound i (List.mem_mergeSort.mp hi))
  rwa [String.append_empty] at hall

/-- Stubs can be added where the tree of the text cuts no character. -/
theorem exists_addStubs {parse : Parser} {code : String} {root : Tree}
    (hroot : parse (Utf8.encode code) = some root) (h : root.CutsNoChar code) :
    ∃ s, addStubs parse code = .ok s := by
  obtain ⟨is, his, hfits⟩ := exists_insertions fun c hc => h.child hc
  obtain ⟨s, hs⟩ := exists_insertAll hfits
  refine ⟨s, ?_⟩
  rw [addStubs]
  simp only [hroot, his, hs]
  rw [Utf8.decode_eq_ok_iff.mpr rfl]
  rfl

end Output

end Dissect
