import Dissect.FileTree
import Dissect.Proofs.Outcome
import Mathlib.Data.List.Basic

namespace Dissect

def Location.enter (loc : Location) (name : String) : Location :=
  if name = "." then loc else if name = ".." then loc.up else loc ++ [name]

/-- The place that a path leads to, if it leads anywhere. -/
def Path.place (p : Path) : Location :=
  p.parts.foldl Location.enter (if p.root.isEmpty then [] else ["/"])

namespace FileTree

variable {t t' : FileTree} {p q : Path} {loc : Location} {content : Bytes}

theorem step_eq_ok_iff {name : String} {l : Location} :
    t.step loc name = .ok l ↔
      t.isDirAt loc ∧ name.utf8ByteSize ≤ nameLimit ∧ l = loc.enter name := by
  rw [step, Location.enter]
  cases hdir : t.isDirAt loc with
  | false => simp
  | true =>
      simp only [Bool.not_true, Bool.false_eq_true, if_false, true_and, beq_iff_eq]
      by_cases hlong : nameLimit < name.utf8ByteSize
      · simp only [hlong, if_true, reduceCtorEq, Nat.not_le.mpr hlong, false_and]
      · simp only [hlong, if_false, Nat.not_lt.mp hlong, true_and]
        split_ifs <;> simp only [Except.ok.injEq, eq_comm]

theorem isDirAt_mono (h : t.dirs ⊆ t'.dirs) (hdir : t.isDirAt loc) : t'.isDirAt loc := by
  simp only [isDirAt, Bool.or_eq_true, List.contains_iff_mem] at hdir ⊢
  exact hdir.imp_right fun hmem => h hmem

theorem eq_foldl_enter_of_foldlM {start : Location} {names : List String}
    (h : names.foldlM t.step start = .ok loc) : loc = names.foldl Location.enter start := by
  induction names generalizing start with
  | nil =>
      cases h
      rfl
  | cons name names ih =>
      rw [List.foldlM_cons] at h
      obtain ⟨next, hstep, hrest⟩ := bind_eq_ok_iff.mp h
      obtain ⟨-, -, rfl⟩ := step_eq_ok_iff.mp hstep
      exact ih hrest

theorem foldlM_step_mono (hdirs : t.dirs ⊆ t'.dirs) {start : Location} {names : List String}
    (h : names.foldlM t.step start = .ok loc) : names.foldlM t'.step start = .ok loc := by
  induction names generalizing start with
  | nil => exact h
  | cons name names ih =>
      rw [List.foldlM_cons] at h ⊢
      obtain ⟨next, hstep, hrest⟩ := bind_eq_ok_iff.mp h
      obtain ⟨hdir, hshort, rfl⟩ := step_eq_ok_iff.mp hstep
      rw [step_eq_ok_iff.mpr ⟨isDirAt_mono hdirs hdir, hshort, rfl⟩]
      exact ih hrest

theorem locate_eq_ok_iff :
    t.locate p = .ok loc ↔ checkText p.toText = .ok () ∧ t.walk p.root p.parts = .ok loc := by
  rw [locate, bind_eq_ok_iff]
  exact ⟨fun ⟨_, htext, hwalk⟩ => ⟨htext, hwalk⟩, fun ⟨htext, hwalk⟩ => ⟨(), htext, hwalk⟩⟩

theorem eq_place_of_locate (h : t.locate p = .ok loc) : loc = p.place :=
  eq_foldl_enter_of_foldlM (locate_eq_ok_iff.mp h).2

theorem locate_mono (hdirs : t.dirs ⊆ t'.dirs) (h : t.locate p = .ok loc) :
    t'.locate p = .ok loc := by
  obtain ⟨htext, hwalk⟩ := locate_eq_ok_iff.mp h
  exact locate_eq_ok_iff.mpr ⟨htext, foldlM_step_mono hdirs hwalk⟩

theorem makeDir_eq_ok (h : t.makeDir p = .ok t') : t'.files = t.files ∧ t.dirs ⊆ t'.dirs := by
  rw [makeDir] at h
  split at h
  · cases h
  · split at h
    · cases h
    · cases h
      exact ⟨rfl, List.subset_append_left _ _⟩

theorem makeDirsUpTo_keeps (height : Nat) (t : FileTree) (p : Path) :
    (makeDirsUpTo height t p).1.files = t.files ∧
      t.dirs ⊆ (makeDirsUpTo height t p).1.dirs := by
  induction height generalizing t p with
  | zero =>
      rw [makeDirsUpTo]
      split
      · exact makeDir_eq_ok ‹_›
      · exact ⟨rfl, List.Subset.refl _⟩
      · exact ⟨rfl, List.Subset.refl _⟩
  | succ height ih =>
      rw [makeDirsUpTo]
      split
      · exact makeDir_eq_ok ‹_›
      · obtain ⟨hfiles, hdirs⟩ := ih t p.parent
        split
        · rename_i t₁ f hparent
          rw [hparent] at hfiles hdirs
          exact ⟨hfiles, hdirs⟩
        · rename_i t₁ hparent
          rw [hparent] at hfiles hdirs
          split
          · rename_i t₂ hmade
            obtain ⟨hfiles₂, hdirs₂⟩ := makeDir_eq_ok hmade
            exact ⟨hfiles₂.trans hfiles, List.Subset.trans hdirs hdirs₂⟩
          · exact ⟨hfiles, hdirs⟩
          · exact ⟨hfiles, hdirs⟩
      · exact ⟨rfl, List.Subset.refl _⟩

theorem makeDirs_keeps (t : FileTree) (p : Path) :
    (t.makeDirs p).1.files = t.files ∧ t.dirs ⊆ (t.makeDirs p).1.dirs :=
  makeDirsUpTo_keeps _ t p

theorem lookup_setFile_self (loc : Location) (content : Bytes)
    (files : List (Location × Bytes)) : (setFile loc content files).lookup loc = some content := by
  induction files with
  | nil => simp [setFile]
  | cons f files ih =>
      obtain ⟨l, old⟩ := f
      rw [setFile]
      split
      · rename_i h
        rw [beq_iff_eq] at h
        simp [h]
      · rename_i h
        rw [List.lookup_cons, ih, beq_false_of_ne fun heq => h (beq_iff_eq.mpr heq.symm)]

theorem lookup_setFile_of_ne {l : Location} (h : l ≠ loc) (content : Bytes)
    (files : List (Location × Bytes)) : (setFile loc content files).lookup l = files.lookup l := by
  induction files with
  | nil => simp [setFile, h]
  | cons f files ih =>
      obtain ⟨l', old⟩ := f
      rw [setFile]
      split
      · rename_i h'
        rw [beq_iff_eq] at h'
        rw [List.lookup_cons, List.lookup_cons, h', beq_false_of_ne h]
      · rw [List.lookup_cons, List.lookup_cons, ih]

theorem setFile_of_not_mem {files : List (Location × Bytes)} (h : loc ∉ files.map Prod.fst)
    (content : Bytes) : setFile loc content files = files ++ [(loc, content)] := by
  induction files with
  | nil => rfl
  | cons f files ih =>
      obtain ⟨l, old⟩ := f
      simp only [List.map_cons, List.mem_cons, not_or] at h
      rw [setFile, if_neg (by simpa using Ne.symm h.1), ih h.2, List.cons_append]

/-- The second tree is the first one after a content was written to a path. -/
structure Written (t : FileTree) (p : Path) (content : Bytes) (t' : FileTree) : Prop where
  dirs : t.dirs ⊆ t'.dirs
  located : t'.locate p = .ok p.place
  files : t'.files = setFile p.place content t.files

theorem written_of_put (h : t.put p content = (t', .ok ())) : Written t p content t' := by
  rw [put] at h
  split at h
  · cases h
  · rename_i loc hloc
    split at h
    · cases h
    · cases h
      obtain rfl := eq_place_of_locate hloc
      have hdirs : t.dirs ⊆ { t with files := setFile p.place content t.files }.dirs :=
        List.Subset.refl _
      exact ⟨hdirs, locate_mono hdirs hloc, rfl⟩

theorem written_of_write (h : t.write p content = (t', .ok ())) : Written t p content t' := by
  rw [write] at h
  obtain ⟨hfiles, hdirs⟩ := makeDirs_keeps t p.parent
  split at h
  · cases h
  · rename_i t₁ hmade
    rw [hmade] at hfiles hdirs
    have hput := written_of_put h
    exact ⟨List.Subset.trans hdirs hput.dirs, hput.located, by rw [hput.files, hfiles]⟩

theorem files_of_write_error {f : FileFault} (h : t.write p content = (t', .error f)) :
    t'.files = t.files ∧ t.dirs ⊆ t'.dirs := by
  rw [write] at h
  obtain ⟨hfiles, hdirs⟩ := makeDirs_keeps t p.parent
  split at h
  · rename_i t₁ f' hmade
    cases h
    rw [hmade] at hfiles hdirs
    exact ⟨hfiles, hdirs⟩
  · rename_i t₁ hmade
    rw [hmade] at hfiles hdirs
    rw [put] at h
    split at h
    · cases h
      exact ⟨hfiles, hdirs⟩
    · split at h
      · cases h
        exact ⟨hfiles, hdirs⟩
      · cases h

theorem read_of_located (hloc : t.locate p = .ok p.place)
    (hfile : t.fileAt? p.place = some content) : t.read p = .ok content := by
  rw [read, hloc, contentAt]
  simp only [hfile]

theorem Written.read (h : Written t p content t') : t'.read p = .ok content :=
  read_of_located h.located (by rw [fileAt?, h.files, lookup_setFile_self])

/-- Contents are written to paths one after another, up to the first path that is refused. -/
def writeAll : FileTree → List (Path × Bytes) → FileTree × Except (Path × FileFault) Unit
  | t, [] => (t, .ok ())
  | t, (p, content) :: writes =>
      match t.write p content with
      | (t₁, .ok _) => t₁.writeAll writes
      | (t₁, .error f) => (t₁, .error (p, f))

theorem writeAll_cons_of_ok {t₁ : FileTree} (h : t.write p content = (t₁, .ok ()))
    (writes : List (Path × Bytes)) : t.writeAll ((p, content) :: writes) = t₁.writeAll writes := by
  rw [writeAll, h]

theorem writeAll_cons_of_error {t₁ : FileTree} {f : FileFault}
    (h : t.write p content = (t₁, .error f)) (writes : List (Path × Bytes)) :
    t.writeAll ((p, content) :: writes) = (t₁, .error (p, f)) := by
  rw [writeAll, h]

/-- The second tree is the first one after contents were written to paths, one after another. -/
inductive WrittenAll : FileTree → List (Path × Bytes) → FileTree → Prop
  | nil (t : FileTree) : WrittenAll t [] t
  | cons {t t₁ t' : FileTree} {p : Path} {content : Bytes} {writes : List (Path × Bytes)}
      (first : Written t p content t₁) (rest : WrittenAll t₁ writes t') :
      WrittenAll t ((p, content) :: writes) t'

theorem writtenAll_of_writeAll {writes : List (Path × Bytes)}
    (h : (t.writeAll writes).2 = .ok ()) : t.WrittenAll writes (t.writeAll writes).1 := by
  induction writes generalizing t with
  | nil => exact .nil t
  | cons w writes ih =>
      obtain ⟨p, content⟩ := w
      rcases hwrite : t.write p content with ⟨t₁, f | _⟩
      · rw [writeAll_cons_of_error hwrite] at h
        cases h
      · rw [writeAll_cons_of_ok hwrite] at h ⊢
        exact .cons (written_of_write hwrite) (ih h)

namespace WrittenAll

variable {writes : List (Path × Bytes)}

theorem dirs (h : WrittenAll t writes t') : t.dirs ⊆ t'.dirs := by
  induction h with
  | nil t => exact List.Subset.refl _
  | cons first rest ih => exact List.Subset.trans first.dirs ih

theorem located (h : WrittenAll t writes t') : ∀ w ∈ writes, t'.locate w.1 = .ok w.1.place := by
  induction h with
  | nil t => exact fun w hw => nomatch hw
  | cons first rest ih =>
      exact List.forall_mem_cons.mpr ⟨locate_mono rest.dirs first.located, ih⟩

/-- Contents written to new places, all different, come behind the files that were there. -/
theorem files (h : WrittenAll t writes t') (hnodup : (writes.map (·.1.place)).Nodup)
    (hnew : ∀ w ∈ writes, w.1.place ∉ t.files.map Prod.fst) :
    t'.files = t.files ++ writes.map fun w => (w.1.place, w.2) := by
  induction h with
  | nil t => rw [List.map_nil, List.append_nil]
  | @cons t t₁ t' p content writes first rest ih =>
      obtain ⟨hp, hnew⟩ := List.forall_mem_cons.mp hnew
      obtain ⟨hother, hnodup⟩ := List.nodup_cons.mp hnodup
      have hfirst : t₁.files = t.files ++ [(p.place, content)] := by
        rw [first.files, setFile_of_not_mem hp]
      have hlater : ∀ w ∈ writes, w.1.place ∉ t₁.files.map Prod.fst := by
        intro w hw
        rw [hfirst, List.map_append, List.mem_append, not_or]
        refine ⟨hnew w hw, fun hmem => hother ?_⟩
        rw [List.map_singleton, List.mem_singleton] at hmem
        exact List.mem_map.mpr ⟨w, hw, hmem⟩
      rw [ih hnodup hlater, hfirst, List.append_assoc, List.map_cons, List.singleton_append]

theorem fileAt?_of_not_mem (h : WrittenAll t writes t') (hloc : loc ∉ writes.map (·.1.place)) :
    t'.fileAt? loc = t.fileAt? loc := by
  induction h with
  | nil t => rfl
  | cons first rest ih =>
      rw [List.map_cons, List.mem_cons, not_or] at hloc
      rw [ih hloc.2, fileAt?, first.files, lookup_setFile_of_ne hloc.1, fileAt?]

theorem read (h : WrittenAll t writes t') (hnodup : (writes.map (·.1.place)).Nodup) :
    ∀ w ∈ writes, t'.read w.1 = .ok w.2 := by
  induction h with
  | nil t => exact fun w hw => nomatch hw
  | @cons t t₁ t' p content writes first rest ih =>
      obtain ⟨hother, hnodup⟩ := List.nodup_cons.mp hnodup
      refine List.forall_mem_cons.mpr ⟨?_, ih hnodup⟩
      refine read_of_located (locate_mono rest.dirs first.located) ?_
      rw [rest.fileAt?_of_not_mem hother, fileAt?, first.files, lookup_setFile_self]

end WrittenAll

def filesBelow (t : FileTree) (loc : Location) : List (List String × Bytes) :=
  t.files.filterMap fun f =>
    if loc.length < f.1.length && loc.isPrefixOf f.1 then some (f.1.drop loc.length, f.2) else none

theorem below_of_locate (h : t.locate p = .ok loc) : t.below p = t.filesBelow loc := by
  rw [below, h]
  rfl

theorem not_mem_of_filesBelow_nil {names : List String} (h : t.filesBelow loc = [])
    (hnames : names ≠ []) : loc ++ names ∉ t.files.map Prod.fst := by
  intro hmem
  obtain ⟨f, hf, hloc⟩ := List.mem_map.mp hmem
  rw [filesBelow, List.filterMap_eq_nil_iff] at h
  have hnone := h f hf
  have hlength := List.length_pos_iff.mpr hnames
  simp [hloc, hlength] at hnone

theorem filesBelow_append {files : List (List String × Bytes)} (hfiles : ∀ f ∈ files, f.1 ≠ [])
    (hnone : t.filesBelow loc = [])
    (h : t'.files = t.files ++ files.map fun f => (loc ++ f.1, f.2)) :
    t'.filesBelow loc = files := by
  rw [filesBelow, h, List.filterMap_append]
  rw [filesBelow] at hnone
  rw [hnone, List.nil_append, List.filterMap_map]
  have hsome : ∀ f ∈ files, ((fun f : Location × Bytes =>
      if loc.length < f.1.length && loc.isPrefixOf f.1 then some (f.1.drop loc.length, f.2)
      else none) ∘ fun f => (loc ++ f.1, f.2)) f = some f := by
    intro f hf
    have hlength := List.length_pos_iff.mpr (hfiles f hf)
    simp [hlength]
  rw [List.filterMap_congr hsome, List.filterMap_some]

theorem place_join (p : Path) (names : List String) :
    (p.join names).place = names.foldl Location.enter p.place := by
  rw [Path.place, Path.join, List.foldl_append]
  rfl

theorem toText_of_parts (h : p.parts ≠ []) : p.toText = p.root ++ "/".intercalate p.parts := by
  rw [Path.toText, List.isEmpty_eq_false_iff.mpr h, Bool.and_false]
  rfl

theorem toText_join {names : List String} (hp : p.parts ≠ []) (hnames : names ≠ []) :
    (p.join names).toText = p.toText ++ ("/" ++ "/".intercalate names) := by
  have hparts : (p.join names).parts ≠ [] := List.append_ne_nil_of_left_ne_nil hp names
  rw [toText_of_parts hparts, toText_of_parts hp, Path.join,
    String.intercalate_append_of_ne_nil hp hnames]
  simp only [String.append_assoc]

theorem checkText_of_append {front back : String} (h : checkText (front ++ back) = .ok ()) :
    checkText front = .ok () := by
  rw [checkText] at h ⊢
  split at h
  · cases h
  · rename_i hplain
    split at h
    · cases h
    · rename_i hshort
      have hnul : ¬ front.toList.contains '\x00' = true := by
        rw [List.contains_iff_mem] at hplain ⊢
        rw [String.toList_append, List.mem_append, not_or] at hplain
        exact hplain.1
      rw [String.utf8ByteSize_append] at hshort
      rw [if_neg hnul, if_neg (by omega)]

theorem locate_of_join {names : List String} (hp : p.parts ≠ []) (hnames : names ≠ [])
    (h : t.locate (p.join names) = .ok loc) : t.locate p = .ok p.place := by
  obtain ⟨htext, hwalk⟩ := locate_eq_ok_iff.mp h
  rw [toText_join hp hnames] at htext
  rw [walk, Path.join, List.foldlM_append] at hwalk
  obtain ⟨l, hfront, -⟩ := bind_eq_ok_iff.mp hwalk
  have hloc := locate_eq_ok_iff.mpr ⟨checkText_of_append htext, hfront⟩
  rwa [← eq_place_of_locate hloc]

end FileTree

end Dissect
