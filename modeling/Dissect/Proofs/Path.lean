import Dissect.Path
import Dissect.Proofs.Text.Lines

namespace Dissect.Path

open Text

/-- What can stand between the slashes of a path. -/
structure IsName (name : String) : Prop where
  nonempty : name ≠ ""
  notDot : name ≠ "."
  plain : '/' ∉ name.toList

structure IsWritten (p : Path) : Prop where
  root : p.root = "" ∨ p.root = "/" ∨ p.root = "//"
  names : ∀ name ∈ p.parts, IsName name

theorem rootOf_cases (cs : List Char) :
    rootOf cs = "" ∨ rootOf cs = "/" ∨ rootOf cs = "//" := by
  rw [rootOf.eq_def]
  split <;> simp

theorem not_mem_of_mem_splitOn {c : Char} {cs part : List Char} (h : part ∈ cs.splitOn c) :
    c ∉ part := by
  induction cs generalizing part with
  | nil => simp_all
  | cons d ds ih =>
      rw [List.splitOn_cons_eq_if_modifyHead] at h
      split at h
      · rcases List.mem_cons.mp h with rfl | h
        · exact List.not_mem_nil
        · exact ih h
      · rename_i hne
        cases hparts : ds.splitOn c with
        | nil => exact absurd hparts (List.splitOn_ne_nil c ds)
        | cons first rest =>
            rw [hparts, List.modifyHead_cons] at h
            rw [hparts] at ih
            rcases List.mem_cons.mp h with rfl | h
            · rw [List.mem_cons, not_or]
              exact ⟨fun heq => hne (beq_iff_eq.mpr heq.symm), ih List.mem_cons_self⟩
            · exact ih (List.mem_cons_of_mem _ h)

theorem isName_of_mem_namesOf {cs : List Char} {name : String} (h : name ∈ namesOf cs) :
    IsName name := by
  obtain ⟨part, hpart, rfl⟩ := List.mem_map.mp h
  rw [cut_eq_splitOn, List.mem_filter, Bool.and_eq_true, bne_iff_ne, bne_iff_ne] at hpart
  obtain ⟨hcut, hnonempty, hdot⟩ := hpart
  refine ⟨?_, ?_, ?_⟩
  · intro heq
    exact hnonempty (by simpa using congrArg String.toList heq)
  · intro heq
    exact hdot (by simpa using congrArg String.toList heq)
  · rw [String.toList_ofList]
    exact not_mem_of_mem_splitOn hcut

theorem isWritten_ofText (text : String) : (ofText text).IsWritten :=
  ⟨rootOf_cases _, fun _ => isName_of_mem_namesOf⟩

theorem IsWritten.join {p : Path} (h : p.IsWritten) {names : List String}
    (hnames : ∀ name ∈ names, IsName name) : (p.join names).IsWritten :=
  ⟨h.root, List.forall_mem_append.mpr ⟨h.names, hnames⟩⟩

theorem namesOf_slash (cs : List Char) : namesOf ('/' :: cs) = namesOf cs := by
  have hcut : ('/' :: cs).splitOn '/' = [] :: cs.splitOn '/' := by
    simp [List.splitOn_cons_eq_if_modifyHead]
  rw [namesOf, namesOf, cut_eq_splitOn, cut_eq_splitOn, hcut, List.filter_cons]
  rfl

theorem namesOf_intercalate {names : List String} (h : ∀ name ∈ names, IsName name) :
    namesOf ("/".intercalate names).toList = names := by
  cases names with
  | nil => rfl
  | cons first rest =>
      have hplain : ∀ part ∈ (first :: rest).map String.toList, '/' ∉ part :=
        List.forall_mem_map.mpr fun name hname => (h name hname).plain
      have hcut : cut (· == '/') ("/".intercalate (first :: rest)).toList
          = (first :: rest).map String.toList := by
        rw [cut_eq_splitOn, String.toList_intercalate]
        exact List.splitOn_intercalate '/' hplain (by simp)
      have hkeep : ∀ part ∈ (first :: rest).map String.toList,
          (part != [] && part != ['.']) = true := by
        intro part hpart
        obtain ⟨name, hname, rfl⟩ := List.mem_map.mp hpart
        rw [Bool.and_eq_true, bne_iff_ne, bne_iff_ne]
        constructor
        · intro heq
          exact (h name hname).nonempty (String.toList_inj.mp heq)
        · intro heq
          exact (h name hname).notDot (String.toList_inj.mp heq)
      rw [namesOf, hcut, List.filter_eq_self.mpr hkeep, List.map_map]
      simp [Function.comp_def]

theorem head?_intercalate_ne_slash {names : List String} (h : ∀ name ∈ names, IsName name) :
    ("/".intercalate names).toList.head? ≠ some '/' := by
  cases names with
  | nil => simp
  | cons first rest =>
      have hfirst := h first List.mem_cons_self
      cases hchars : first.toList with
      | nil => exact absurd (String.toList_inj.mp hchars) hfirst.nonempty
      | cons c cs =>
          have hhead : ("/".intercalate (first :: rest)).toList.head? = some c := by
            cases rest <;> simp [String.intercalate_cons_cons, hchars]
          rw [hhead]
          intro heq
          refine hfirst.plain ?_
          rw [hchars, Option.some.inj heq]
          exact List.mem_cons_self

theorem rootOf_of_head? {cs : List Char} (h : cs.head? ≠ some '/') :
    rootOf cs = "" ∧ rootOf ('/' :: cs) = "/" ∧ rootOf ('/' :: '/' :: cs) = "//" := by
  cases cs with
  | nil => exact ⟨rfl, rfl, rfl⟩
  | cons c cs =>
      have hc : c ≠ '/' := fun heq => h (congrArg some heq)
      refine ⟨?_, ?_, ?_⟩ <;> simp [rootOf, hc]

theorem ofText_toText {p : Path} (h : p.IsWritten) : ofText p.toText = p := by
  obtain ⟨root, names⟩ := p
  obtain ⟨hroot, hnames⟩ := h
  dsimp only at hroot hnames
  have hread := namesOf_intercalate hnames
  obtain ⟨hnone, hone, htwo⟩ := rootOf_of_head? (head?_intercalate_ne_slash hnames)
  rw [toText]
  split
  · rename_i hempty
    obtain ⟨rfl, rfl⟩ : root = "" ∧ names = [] := by simpa using hempty
    rfl
  · have hslash : "/".toList = ['/'] := by decide
    have hslashes : "//".toList = ['/', '/'] := by decide
    rw [ofText, String.toList_append, Path.mk.injEq]
    dsimp only
    rcases hroot with rfl | rfl | rfl
    · exact ⟨hnone, hread⟩
    · rw [hslash]
      exact ⟨hone, (namesOf_slash _).trans hread⟩
    · rw [hslashes]
      exact ⟨htwo, ((namesOf_slash _).trans (namesOf_slash _)).trans hread⟩

end Dissect.Path
