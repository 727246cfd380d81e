import Dissect.Proofs.FileTree.Below
import Dissect.Proofs.Text.Lines
import Mathlib.Data.List.Induction

namespace Dissect

namespace FileTree

variable {t t' : FileTree} {p : Path} {loc : Location} {names : List String} {name : String}
  {content : Bytes}

/-- The name is one of a file or of a directory, whatever its length. -/
structure IsPlain (name : String) : Prop where
  notDot : name ≠ "."
  notDots : name ≠ ".."
  noSlash : '/' ∉ name.toList
  noNul : '\x00' ∉ name.toList

/-- The octets that names add to a path at most. -/
def roomFor : List String → Nat
  | [] => 0
  | name :: names => name.utf8ByteSize + 1 + roomFor names

theorem roomFor_append (names more : List String) :
    roomFor (names ++ more) = roomFor names + roomFor more := by
  induction names with
  | nil => exact (Nat.zero_add _).symm
  | cons name names ih => rw [List.cons_append, roomFor, roomFor, ih, ← Nat.add_assoc]

theorem utf8ByteSize_intercalate (h : names ≠ []) :
    ("/".intercalate names).utf8ByteSize + 1 = roomFor names := by
  induction names with
  | nil => exact absurd rfl h
  | cons name names ih =>
      have hone : "/".utf8ByteSize = 1 := by decide
      cases names with
      | nil => simp [roomFor]
      | cons other names =>
          have hrest := ih (List.cons_ne_nil other names)
          rw [String.intercalate_cons_cons, String.utf8ByteSize_append, String.utf8ByteSize_append,
            hone]
          simp only [roomFor] at hrest ⊢
          omega

theorem exists_toText_join (p : Path) (hnames : names ≠ []) :
    ∃ front, (p.join names).toText = front ++ "/".intercalate names ∧
      front.utf8ByteSize ≤ p.toText.utf8ByteSize + 1 ∧
      ∀ c ∈ front.toList, c ∈ p.toText.toList ∨ c = '/' := by
  obtain ⟨root, parts⟩ := p
  cases parts with
  | nil =>
      refine ⟨root, toText_of_parts hnames, ?_⟩
      rw [Path.toText]
      split
      · rename_i hempty
        obtain rfl : root = "" := by simpa using hempty
        exact ⟨Nat.zero_le _, fun c hc => absurd hc List.not_mem_nil⟩
      · rw [String.intercalate_nil, String.append_empty]
        exact ⟨Nat.le_succ _, fun c hc => .inl hc⟩
  | cons part parts =>
      refine ⟨Path.toText ⟨root, part :: parts⟩ ++ "/", ?_, ?_, fun c hc => ?_⟩
      · rw [toText_join (List.cons_ne_nil _ _) hnames, String.append_assoc]
      · rw [String.utf8ByteSize_append]
        exact Nat.le_refl _
      · rw [String.toList_append, List.mem_append] at hc
        exact hc.imp_right fun hslash => List.mem_singleton.mp hslash

structure HasRoom (p : Path) (names : List String) : Prop where
  path : '\x00' ∉ p.toText.toList
  plain : ∀ name ∈ names, IsPlain name
  room : p.toText.utf8ByteSize + roomFor names ≤ pathLimit

theorem HasRoom.of_append {more : List String} (h : HasRoom p (names ++ more)) :
    HasRoom p names where
  path := h.path
  plain := fun name hname => h.plain name (List.mem_append_left more hname)
  room := by
    have hroom := h.room
    rw [roomFor_append] at hroom
    omega

theorem HasRoom.not_mem (hpath : '\x00' ∉ p.toText.toList) (hnames : ∀ name ∈ names, IsPlain name) :
    '\x00' ∉ (p.join names).toText.toList := by
  cases names with
  | nil => rwa [Path.join, List.append_nil]
  | cons name names =>
      obtain ⟨front, htext, -, hfront⟩ := exists_toText_join p (List.cons_ne_nil name names)
      rw [htext, String.toList_append, List.mem_append, not_or]
      have hslash : ∀ c ∈ "/".toList, c ≠ '\x00' := by
        intro c hc
        obtain rfl := List.mem_singleton.mp hc
        decide
      have hother : ∀ c ∈ ("/".intercalate (name :: names)).toList, c ≠ '\x00' :=
        Text.forall_mem_intercalate hslash fun n hn c hc heq => (hnames n hn).noNul (heq ▸ hc)
      refine ⟨fun hmem => ?_, fun hmem => hother _ hmem rfl⟩
      rcases hfront _ hmem with hmem | hslash
      · exact hpath hmem
      · exact absurd hslash (by decide)

theorem HasRoom.checkText (h : HasRoom p names) : checkText (p.join names).toText = .ok () := by
  have hnul := HasRoom.not_mem h.path h.plain
  have hroom : (p.join names).toText.utf8ByteSize ≤ p.toText.utf8ByteSize + roomFor names := by
    cases names with
    | nil => rw [Path.join, List.append_nil]; exact Nat.le_add_right _ _
    | cons name names =>
        obtain ⟨front, htext, hfront, -⟩ := exists_toText_join p (List.cons_ne_nil name names)
        have hnames := utf8ByteSize_intercalate (List.cons_ne_nil name names)
        rw [htext, String.utf8ByteSize_append]
        omega
  have hlimit := h.room
  rw [FileTree.checkText, if_neg (by rwa [List.contains_iff_mem]), if_neg (by omega)]

theorem not_mem_of_checkText {text : String} (h : checkText text = .ok ()) :
    '\x00' ∉ text.toList := by
  intro hmem
  rw [FileTree.checkText, if_pos (List.contains_iff_mem.mpr hmem)] at h
  cases h

structure HasDir (t : FileTree) (p : Path) : Prop where
  located : t.locate p = .ok p.place
  isDir : t.isDirAt p.place

theorem HasDir.mono (h : HasDir t p) (hdirs : t.dirs ⊆ t'.dirs) : HasDir t' p where
  located := locate_mono hdirs h.located
  isDir := isDirAt_mono hdirs h.isDir

theorem enter_of_isPlain (h : IsPlain name) (loc : Location) : loc.enter name = loc ++ [name] := by
  rw [Location.enter, if_neg h.notDot, if_neg h.notDots]

theorem place_join_of_plain (p : Path) (h : ∀ name ∈ names, IsPlain name) :
    (p.join names).place = p.place ++ names := by
  rw [place_join]
  generalize p.place = loc
  induction names generalizing loc with
  | nil => rw [List.append_nil]; rfl
  | cons name names ih =>
      obtain ⟨hname, hnames⟩ := List.forall_mem_cons.mp h
      rw [List.foldl_cons, enter_of_isPlain hname, ih hnames, List.append_assoc]
      rfl

theorem walk_join (h : HasDir t p) (names : List String) :
    t.walk (p.join names).root (p.join names).parts = names.foldlM t.step p.place := by
  have hwalk := (locate_eq_ok_iff.mp h.located).2
  rw [walk] at hwalk
  rw [walk, Path.join, List.foldlM_append, hwalk]
  rfl

theorem locate_join (h : HasDir t p) (hroom : HasRoom p names) :
    t.locate (p.join names) = names.foldlM t.step p.place := by
  rw [locate, hroom.checkText, walk_join h]
  rfl

/-- A way of short names through directories is gone, or a directory on it is missing, unless a
file stands in the way. -/
theorem foldlM_step_cases (hplain : ∀ name ∈ names, IsPlain name)
    (hshort : ∀ name ∈ names, name.utf8ByteSize ≤ nameLimit)
    (hstart : t.isDirAt loc ∨ t.fileAt? loc = none)
    (hfree : ∀ front, front ≠ [] → front <+: names → t.fileAt? (loc ++ front) = none) :
    names.foldlM t.step loc = .ok (loc ++ names) ∨
      names.foldlM t.step loc = .error .noEntry := by
  induction names generalizing loc with
  | nil =>
      rw [List.append_nil]
      exact .inl rfl
  | cons name names ih =>
      obtain ⟨hname, hnames⟩ := List.forall_mem_cons.mp hplain
      obtain ⟨hfirst, hrest⟩ := List.forall_mem_cons.mp hshort
      rw [List.foldlM_cons]
      by_cases hdir : t.isDirAt loc
      · rw [step_eq_ok_iff.mpr ⟨hdir, hfirst, rfl⟩, enter_of_isPlain hname]
        have hbelow : ∀ front, front ≠ [] → front <+: names →
            t.fileAt? (loc ++ [name] ++ front) = none := by
          intro front hne hfront
          rw [List.append_assoc, List.singleton_append]
          exact hfree _ (List.cons_ne_nil _ _) ((List.prefix_cons_inj name).mpr hfront)
        have hnext := ih hnames hrest
          (.inr (hfree [name] (List.cons_ne_nil _ _) ⟨names, rfl⟩)) hbelow
        rwa [List.append_assoc, List.singleton_append] at hnext
      · right
        have hnone := hstart.resolve_left hdir
        rw [step, if_pos (by simpa using hdir), hnone]
        rfl

theorem locate_join_of_hasDir {init : List String} (h : HasDir t (p.join init))
    (hroom : HasRoom p (init ++ [name])) (hshort : name.utf8ByteSize ≤ nameLimit) :
    t.locate (p.join (init ++ [name])) = .ok (p.place ++ (init ++ [name])) := by
  have hname : IsPlain name := hroom.plain name (by simp)
  have hjoin : p.join (init ++ [name]) = (p.join init).join [name] := by
    simp only [Path.join, List.append_assoc]
  rw [locate, hroom.checkText, hjoin, walk_join h]
  change t.step (p.join init).place name >>= pure = _
  rw [step_eq_ok_iff.mpr ⟨h.isDir, hshort, rfl⟩, enter_of_isPlain hname,
    place_join_of_plain p hroom.of_append.plain, List.append_assoc]
  rfl

/-- The second tree is the first one with the directories that names lead to from a path. -/
structure Made (t : FileTree) (p : Path) (names : List String) (t' : FileTree) : Prop where
  files : t'.files = t.files
  dirs : t.dirs ⊆ t'.dirs
  hasDir : HasDir t' (p.join names)
  new : ∀ loc ∈ t'.dirs, loc ∈ t.dirs ∨ ∃ front, front <+: names ∧ loc = p.place ++ front

theorem makeDir_of_hasDir (h : HasDir t p) : t.makeDir p = .error .exists := by
  rw [makeDir, h.located]
  simp only [h.isDir, Bool.true_or, if_true]

theorem acceptDir_of_hasDir (h : HasDir t p) (cause : FileCause) :
    t.acceptDir p cause = .ok () := by
  rw [acceptDir, isDir, h.located]
  simp only [h.isDir]

theorem Made.refl (h : HasDir t (p.join names)) : Made t p names t where
  files := rfl
  dirs := List.Subset.refl _
  hasDir := h
  new := fun _ hloc => .inl hloc

theorem Made.trans {t₁ : FileTree} {more : List String} (h : Made t p names t₁)
    (h' : Made t₁ p (names ++ more) t') : Made t p (names ++ more) t' where
  files := h'.files.trans h.files
  dirs := List.Subset.trans h.dirs h'.dirs
  hasDir := h'.hasDir
  new := by
    intro loc hloc
    rcases h'.new loc hloc with hloc | hnew
    · rcases h.new loc hloc with hloc | ⟨front, hfront, rfl⟩
      · exact .inl hloc
      · exact .inr ⟨front, hfront.trans (List.prefix_append names more), rfl⟩
    · exact .inr hnew

theorem exists_made_of_locate (hplain : ∀ name ∈ names, IsPlain name)
    (hlocated : t.locate (p.join names) = .ok (p.place ++ names))
    (hfree : t.fileAt? (p.place ++ names) = none) :
    ∃ t', Made t p names t' ∧ (t.makeDir (p.join names) = .ok t' ∨
      t' = t ∧ t.makeDir (p.join names) = .error .exists) := by
  have hplace := place_join_of_plain p hplain
  rw [← hplace] at hlocated hfree
  by_cases hdir : t.isDirAt (p.join names).place
  · have hthere : HasDir t (p.join names) := ⟨hlocated, hdir⟩
    exact ⟨t, .refl hthere, .inr ⟨rfl, makeDir_of_hasDir hthere⟩⟩
  · refine ⟨{ t with dirs := t.dirs ++ [(p.join names).place] }, ?_, .inl ?_⟩
    · have hdirs : t.dirs ⊆ t.dirs ++ [(p.join names).place] := List.subset_append_left _ _
      refine ⟨rfl, hdirs, ⟨locate_mono hdirs hlocated, ?_⟩, fun loc hloc => ?_⟩
      · simp [isDirAt]
      · rw [List.mem_append, List.mem_singleton] at hloc
        exact hloc.imp_right fun heq => ⟨names, List.prefix_refl names, heq.trans hplace⟩
    · rw [makeDir, hlocated]
      simp only [hdir, hfree, Option.isSome_none, Bool.or_self, Bool.false_eq_true, if_false]

theorem exists_makeDirsUpTo {height : Nat} (h : HasDir t p) (hroom : HasRoom p names)
    (hshort : ∀ name ∈ names, name.utf8ByteSize ≤ nameLimit)
    (hfree : ∀ front, front ≠ [] → front <+: names → t.fileAt? (p.place ++ front) = none)
    (hheight : names.length ≤ height) :
    ∃ t', makeDirsUpTo height t (p.join names) = (t', .ok ()) ∧ Made t p names t' := by
  induction names using List.reverseRecOn generalizing height with
  | nil =>
      have hthere : HasDir t (p.join []) := by rwa [Path.join, List.append_nil]
      refine ⟨t, ?_, .refl hthere⟩
      cases height <;>
        simp only [makeDirsUpTo, makeDir_of_hasDir hthere, acceptDir_of_hasDir hthere]
  | append_singleton init name ih =>
      have hne : init ++ [name] ≠ [] := List.append_ne_nil_of_right_ne_nil _ (List.cons_ne_nil _ _)
      have hlast := hfree _ hne (List.prefix_refl _)
      rcases foldlM_step_cases hroom.plain hshort (.inl h.isDir) hfree with hgone | hmissing
      · rw [← locate_join h hroom] at hgone
        obtain ⟨t', hmade, hok | ⟨rfl, hexists⟩⟩ := exists_made_of_locate hroom.plain hgone hlast
        · refine ⟨t', ?_, hmade⟩
          cases height <;> simp only [makeDirsUpTo, hok]
        · refine ⟨t', ?_, hmade⟩
          cases height <;> simp only [makeDirsUpTo, hexists, acceptDir_of_hasDir hmade.hasDir]
      · rw [← locate_join h hroom] at hmissing
        have hnone : t.makeDir (p.join (init ++ [name])) = .error .noEntry := by
          rw [makeDir, hmissing]
        have hparent : (p.join (init ++ [name])).parent = p.join init := by
          rw [Path.join, Path.parent, ← List.append_assoc, List.dropLast_concat]
          rfl
        rw [List.length_append, List.length_singleton] at hheight
        obtain ⟨height, rfl⟩ := Nat.exists_eq_add_of_le' (Nat.le_of_add_left_le hheight)
        obtain ⟨t₁, habove, hmade₁⟩ := ih hroom.of_append
          (fun n hn => hshort n (List.mem_append_left _ hn))
          (fun front hne hfront => hfree front hne (hfront.trans (List.prefix_append _ _)))
          (Nat.le_of_add_le_add_right hheight)
        have hlocated := locate_join_of_hasDir hmade₁.hasDir hroom (hshort name (by simp))
        have hlast₁ : t₁.fileAt? (p.place ++ (init ++ [name])) = none := by
          rw [fileAt?, hmade₁.files]
          exact hlast
        obtain ⟨t', hmade, hok | ⟨rfl, hexists⟩⟩ :=
          exists_made_of_locate hroom.plain hlocated hlast₁
        · refine ⟨t', ?_, hmade₁.trans hmade⟩
          simp only [makeDirsUpTo, hnone, hparent, habove, hok]
        · refine ⟨t', ?_, hmade₁.trans hmade⟩
          simp only [makeDirsUpTo, hnone, hparent, habove, hexists,
            acceptDir_of_hasDir hmade.hasDir]

/-- Below a place there are files at one depth only, and directories only above it. -/
structure Layered (t : FileTree) (loc : Location) (depth : Nat) : Prop where
  dirs : ∀ names, loc ++ names ∈ t.dirs → names.length < depth
  files : ∀ names, loc ++ names ∈ t.files.map Prod.fst → names = [] ∨ names.length = depth

/-- The path leads to a directory that holds nothing. -/
structure IsFresh (t : FileTree) (p : Path) : Prop extends HasDir t p where
  dirs : ∀ names, names ≠ [] → p.place ++ names ∉ t.dirs
  files : ∀ names, names ≠ [] → p.place ++ names ∉ t.files.map Prod.fst

theorem IsFresh.layered (h : IsFresh t p) {depth : Nat} (hdepth : 0 < depth) :
    Layered t p.place depth where
  dirs := by
    intro names hmem
    obtain rfl : names = [] := by_contra fun hne => h.dirs names hne hmem
    exact hdepth
  files := fun names hmem => .inl (by_contra fun hne => h.files names hne hmem)

theorem fileAt?_eq_none_iff : t.fileAt? loc = none ↔ loc ∉ t.files.map Prod.fst := by
  rw [fileAt?, ← isSome_lookup_iff, Option.not_isSome_iff_eq_none]

variable {dirs : List String}

theorem not_isDirAt_of_layered (h : Layered t loc (dirs.length + 1)) (hname : IsPlain name) :
    t.isDirAt (loc ++ (dirs ++ [name])) = false := by
  have hnotDots : name ∈ loc ++ (dirs ++ [name]) := by simp
  have hslash : loc ++ (dirs ++ [name]) ≠ ["/"] := by
    intro heq
    have hmem := heq ▸ hnotDots
    obtain rfl := List.mem_singleton.mp hmem
    exact hname.noSlash (by decide)
  have hdirs : loc ++ (dirs ++ [name]) ∉ t.dirs := by
    intro hmem
    have hlength := h.dirs _ hmem
    simp at hlength
  rw [isDirAt, Bool.or_eq_false_iff, Bool.or_eq_false_iff, List.all_eq_false]
  exact ⟨⟨⟨name, hnotDots, by simpa using hname.notDots⟩, by simpa using hslash⟩,
    by simpa using hdirs⟩

theorem exists_makeDirs (h : HasDir t p) (hlayered : Layered t p.place (dirs.length + 1))
    (hroom : HasRoom p dirs) (hshort : ∀ name ∈ dirs, name.utf8ByteSize ≤ nameLimit)
    (name : String) :
    ∃ t', t.makeDirs (p.join (dirs ++ [name])).parent = (t', .ok ()) ∧ Made t p dirs t' := by
  have hparent : (p.join (dirs ++ [name])).parent = p.join dirs := by
    rw [Path.join, Path.parent, ← List.append_assoc, List.dropLast_concat]
    rfl
  rw [hparent, makeDirs]
  refine exists_makeDirsUpTo h hroom hshort (fun front hne hfront => ?_) (by simp [Path.join])
  rw [fileAt?_eq_none_iff]
  intro hmem
  have hlength := hfront.length_le
  rcases hlayered.files front hmem with rfl | hdepth
  · exact hne rfl
  · omega

theorem Made.layered (hmade : Made t p dirs t') (h : Layered t p.place (dirs.length + 1)) :
    Layered t' p.place (dirs.length + 1) where
  dirs := by
    intro names hmem
    rcases hmade.new _ hmem with hmem | ⟨front, hfront, heq⟩
    · exact h.dirs names hmem
    · rw [List.append_cancel_left_eq] at heq
      subst heq
      exact Nat.lt_succ_of_le hfront.length_le
  files := hmade.files ▸ h.files

theorem exists_write (h : HasDir t p) (hlayered : Layered t p.place (dirs.length + 1))
    (hroom : HasRoom p (dirs ++ [name]))
    (hshort : ∀ n ∈ dirs ++ [name], n.utf8ByteSize ≤ nameLimit) (content : Bytes) :
    ∃ t', t.write (p.join (dirs ++ [name])) content = (t', .ok ()) ∧ HasDir t' p ∧
      Layered t' p.place (dirs.length + 1) := by
  have hname : IsPlain name := hroom.plain name (by simp)
  obtain ⟨t₁, hdirs, hmade⟩ := exists_makeDirs h hlayered hroom.of_append
    (fun n hn => hshort n (List.mem_append_left _ hn)) name
  have hlayered₁ := hmade.layered hlayered
  have hlocated := locate_join_of_hasDir hmade.hasDir hroom (hshort name (by simp))
  have hfile := not_isDirAt_of_layered hlayered₁ hname
  refine ⟨{ t₁ with files := setFile (p.place ++ (dirs ++ [name])) content t₁.files }, ?_,
    h.mono hmade.dirs, hlayered₁.dirs, fun names hmem => ?_⟩
  · rw [write, hdirs]
    simp only [put, hlocated, hfile, Bool.false_eq_true, if_false]
  · obtain ⟨f, hf, heq⟩ := List.mem_map.mp hmem
    rcases eq_or_mem_of_mem_setFile hf with rfl | hf
    · rw [List.append_cancel_left_eq] at heq
      rw [← heq, List.length_append]
      exact .inr rfl
    · exact hlayered₁.files names (List.mem_map.mpr ⟨f, hf, heq⟩)

/-- A file under a name that is too long is refused for it. -/
theorem exists_write_nameTooLong (h : HasDir t p)
    (hlayered : Layered t p.place (dirs.length + 1)) (hroom : HasRoom p dirs)
    (hshort : ∀ n ∈ dirs, n.utf8ByteSize ≤ nameLimit) (hname : IsPlain name)
    (hlong : nameLimit < name.utf8ByteSize) (content : Bytes) :
    ∃ t', t.write (p.join (dirs ++ [name])) content
      = (t', .error ⟨.nameTooLong, (p.join (dirs ++ [name])).toText⟩) := by
  obtain ⟨t₁, hdirs, hmade⟩ := exists_makeDirs h hlayered hroom hshort name
  have hnul : '\x00' ∉ (p.join (dirs ++ [name])).toText.toList :=
    HasRoom.not_mem hroom.path (List.forall_mem_append.mpr ⟨hroom.plain, by simpa using hname⟩)
  have hlocated : t₁.locate (p.join (dirs ++ [name])) = .error .nameTooLong := by
    have hjoin : p.join (dirs ++ [name]) = (p.join dirs).join [name] := by
      simp only [Path.join, List.append_assoc]
    rw [locate, checkText, if_neg (by rwa [List.contains_iff_mem])]
    split
    · rfl
    · rw [hjoin, walk_join hmade.hasDir, List.foldlM_cons, step,
        if_neg (by simp [hmade.hasDir.isDir]), if_pos hlong]
      rfl
  refine ⟨t₁, ?_⟩
  rw [write, hdirs]
  simp only [put, hlocated]

end FileTree

end Dissect
