import Dissect.Proofs.FileTree
import Mathlib.Data.List.Nodup

namespace Dissect.FileTree

variable {t t' : FileTree} {p : Path} {loc : Location} {names : List String} {content : Bytes}
  {files : List (Location × Bytes)}

theorem eq_or_mem_of_mem_setFile {f : Location × Bytes} (h : f ∈ setFile loc content files) :
    f = (loc, content) ∨ f ∈ files := by
  induction files with
  | nil => exact .inl (List.mem_singleton.mp h)
  | cons g files ih =>
      rw [setFile] at h
      split at h
      · rename_i heq
        obtain rfl := beq_iff_eq.mp heq
        exact (List.mem_cons.mp h).imp_right (List.mem_cons_of_mem _)
      · rcases List.mem_cons.mp h with rfl | h
        · exact .inr List.mem_cons_self
        · exact (ih h).imp_right (List.mem_cons_of_mem _)

theorem mem_map_fst_setFile {l : Location} :
    l ∈ (setFile loc content files).map Prod.fst ↔ l = loc ∨ l ∈ files.map Prod.fst := by
  induction files with
  | nil => simp [setFile]
  | cons g files ih =>
      rw [setFile]
      split
      · rename_i heq
        obtain rfl := beq_iff_eq.mp heq
        simp
      · rw [List.map_cons, List.mem_cons, ih, List.map_cons, List.mem_cons]
        exact or_left_comm

theorem nodup_map_fst_setFile (h : (files.map Prod.fst).Nodup) (loc : Location)
    (content : Bytes) : ((setFile loc content files).map Prod.fst).Nodup := by
  induction files with
  | nil => exact List.nodup_singleton loc
  | cons g files ih =>
      obtain ⟨hother, hrest⟩ := List.nodup_cons.mp h
      rw [setFile]
      split
      · exact h
      · rename_i hne
        rw [List.map_cons, List.nodup_cons, mem_map_fst_setFile, not_or]
        exact ⟨⟨fun heq => hne (beq_iff_eq.mpr heq), hother⟩, ih hrest⟩

theorem isSome_lookup_iff : (files.lookup loc).isSome ↔ loc ∈ files.map Prod.fst := by
  simp only [List.lookup_isSome_iff, List.mem_map, beq_iff_eq, @eq_comm _ loc]

/-- A file by the names that lead to it from a place, if it is below. -/
def strip (loc : Location) (f : Location × Bytes) : Option (List String × Bytes) :=
  if loc.length < f.1.length && loc.isPrefixOf f.1 then some (f.1.drop loc.length, f.2) else none

theorem filesBelow_eq (t : FileTree) (loc : Location) :
    t.filesBelow loc = t.files.filterMap (strip loc) :=
  rfl

theorem strip_eq_some_iff {f : Location × Bytes} {g : List String × Bytes} :
    strip loc f = some g ↔ g.1 ≠ [] ∧ f = (loc ++ g.1, g.2) := by
  obtain ⟨l, content⟩ := f
  obtain ⟨names, content'⟩ := g
  rw [strip]
  constructor
  · intro h
    split at h
    · rename_i hbelow
      simp only [Bool.and_eq_true, decide_eq_true_eq, List.isPrefixOf_iff_prefix] at hbelow
      obtain ⟨hlonger, names', rfl⟩ := hbelow
      rw [List.drop_left, Option.some.injEq] at h
      obtain ⟨rfl, rfl⟩ := Prod.mk.inj h
      refine ⟨?_, rfl⟩
      rintro rfl
      simp at hlonger
    · cases h
  · rintro ⟨hnames, heq⟩
    obtain ⟨rfl, rfl⟩ := Prod.mk.inj heq
    have hlonger := List.length_pos_iff.mpr hnames
    simp [hlonger]

theorem strip_append (hnames : names ≠ []) (content : Bytes) :
    strip loc (loc ++ names, content) = some (names, content) :=
  strip_eq_some_iff.mpr ⟨hnames, rfl⟩

theorem strip_of_not_below {f : Location × Bytes} (h : ¬ loc <+: f.1) : strip loc f = none := by
  rw [Option.eq_none_iff_forall_ne_some]
  intro g hg
  obtain ⟨-, rfl⟩ := strip_eq_some_iff.mp hg
  exact h (List.prefix_append loc g.1)

theorem filterMap_strip_setFile (hnames : names ≠ []) (content : Bytes)
    (files : List (Location × Bytes)) :
    (setFile (loc ++ names) content files).filterMap (strip loc)
      = setFile names content (files.filterMap (strip loc)) := by
  induction files with
  | nil => simp [setFile, strip_append hnames]
  | cons f files ih =>
      obtain ⟨l, old⟩ := f
      rw [setFile]
      split
      · rename_i heq
        obtain rfl := beq_iff_eq.mp heq
        simp [strip_append hnames, setFile]
      · rename_i hne
        cases hf : strip loc (l, old) with
        | none => rw [List.filterMap_cons_none hf, List.filterMap_cons_none hf, ih]
        | some g =>
            obtain ⟨-, hg⟩ := strip_eq_some_iff.mp hf
            have hother : g.1 ≠ names := by
              rintro rfl
              exact hne (beq_iff_eq.mpr (congrArg Prod.fst hg))
            rw [List.filterMap_cons_some hf, List.filterMap_cons_some hf, ih]
            simp [setFile, hother]

theorem filterMap_strip_setFile_of_not_below {l : Location} (h : ¬ loc <+: l) (content : Bytes)
    (files : List (Location × Bytes)) :
    (setFile l content files).filterMap (strip loc) = files.filterMap (strip loc) := by
  induction files with
  | nil => simp [setFile, strip_of_not_below (f := (l, content)) h]
  | cons f files ih =>
      rw [setFile]
      split
      · rename_i heq
        obtain rfl := beq_iff_eq.mp heq
        rw [List.filterMap_cons_none (strip_of_not_below h : strip loc (f.1, content) = none),
          List.filterMap_cons_none (strip_of_not_below h)]
      · rw [List.filterMap_cons, List.filterMap_cons, ih]

theorem nodup_filterMap_strip (h : (files.map Prod.fst).Nodup) (loc : Location) :
    ((files.filterMap (strip loc)).map Prod.fst).Nodup := by
  induction files with
  | nil => exact List.nodup_nil
  | cons f files ih =>
      obtain ⟨hother, hrest⟩ := List.nodup_cons.mp h
      cases hf : strip loc f with
      | none =>
          rw [List.filterMap_cons_none hf]
          exact ih hrest
      | some g =>
          rw [List.filterMap_cons_some hf, List.map_cons, List.nodup_cons]
          refine ⟨fun hmem => hother ?_, ih hrest⟩
          obtain ⟨g', hg', hnames⟩ := List.mem_map.mp hmem
          obtain ⟨f', hf', hstrip⟩ := List.mem_filterMap.mp hg'
          obtain ⟨-, rfl⟩ := strip_eq_some_iff.mp hstrip
          obtain ⟨-, rfl⟩ := strip_eq_some_iff.mp hf
          exact List.mem_map.mpr ⟨_, hf', congrArg (loc ++ ·) hnames⟩

theorem filesBelow_place_append (t : FileTree) (loc more : Location) :
    t.filesBelow (loc ++ more) = (t.filesBelow loc).filterMap (strip more) := by
  rw [filesBelow_eq, filesBelow_eq, List.filterMap_filterMap]
  congr 1
  funext f
  ext g
  simp only [Option.bind_eq_some_iff, strip_eq_some_iff]
  constructor
  · rintro ⟨hnames, rfl⟩
    exact ⟨(more ++ g.1, g.2), ⟨List.append_ne_nil_of_right_ne_nil _ hnames, by simp⟩, hnames, rfl⟩
  · rintro ⟨g', ⟨-, rfl⟩, hnames, rfl⟩
    exact ⟨hnames, by simp⟩

theorem lookup_filesBelow (hnames : names ≠ []) :
    (t.filesBelow loc).lookup names = t.fileAt? (loc ++ names) := by
  rw [filesBelow_eq, fileAt?]
  generalize t.files = files
  induction files with
  | nil => rfl
  | cons f files ih =>
      rw [List.lookup_cons]
      cases hf : strip loc f with
      | none =>
          have hne : loc ++ names ≠ f.1 := by
            intro heq
            rw [show f = (loc ++ names, f.2) from Prod.ext heq.symm rfl,
              strip_append hnames] at hf
            cases hf
          rw [List.filterMap_cons_none hf, ih, beq_false_of_ne hne]
      | some g =>
          obtain ⟨-, rfl⟩ := strip_eq_some_iff.mp hf
          rw [List.filterMap_cons_some hf, List.lookup_cons, ih]
          have hkeys : (loc ++ names == loc ++ g.1) = (names == g.1) := by
            rw [Bool.eq_iff_iff, beq_iff_eq, beq_iff_eq, List.append_cancel_left_eq]
          rw [hkeys]

theorem fileAt?_of_read (h : t.read p = .ok content) : t.fileAt? p.place = some content := by
  rw [read] at h
  cases hloc : t.locate p with
  | error cause =>
      rw [hloc, contentAt] at h
      cases h
  | ok loc =>
      obtain rfl := eq_place_of_locate hloc
      rw [hloc, contentAt] at h
      split at h
      · cases h
        assumption
      · cases h

theorem Written.filesBelow (h : Written t p content t') (hnames : names ≠ [])
    (hplace : p.place = loc ++ names) :
    t'.filesBelow loc = setFile names content (t.filesBelow loc) := by
  rw [filesBelow_eq, h.files, hplace]
  exact filterMap_strip_setFile hnames content t.files

theorem WrittenAll.filesBelow_of_not_below {writes : List (Path × Bytes)}
    (h : WrittenAll t writes t') (hplaces : ∀ w ∈ writes, ¬ loc <+: w.1.place) :
    t'.filesBelow loc = t.filesBelow loc := by
  induction h with
  | nil t => rfl
  | cons first rest ih =>
      obtain ⟨hplace, hplaces⟩ := List.forall_mem_cons.mp hplaces
      rw [ih hplaces, filesBelow_eq, first.files, filesBelow_eq]
      exact filterMap_strip_setFile_of_not_below hplace _ _

theorem isDirAt_of_locate_join {name : String} (h : t.locate (p.join [name]) = .ok loc) :
    t.isDirAt p.place := by
  have hwalk := (locate_eq_ok_iff.mp h).2
  rw [walk, Path.join, List.foldlM_append] at hwalk
  obtain ⟨l, hfront, hlast⟩ := bind_eq_ok_iff.mp hwalk
  obtain rfl := eq_foldl_enter_of_foldlM hfront
  rw [List.foldlM_cons] at hlast
  obtain ⟨l', hstep, -⟩ := bind_eq_ok_iff.mp hlast
  exact (step_eq_ok_iff.mp hstep).1

def ownName : List String × Bytes → Option String
  | ([name], _) => some name
  | _ => none

theorem ownName_eq_some_iff {f : List String × Bytes} {name : String} :
    ownName f = some name ↔ f.1 = [name] := by
  obtain ⟨_ | ⟨a, _ | ⟨b, names⟩⟩, content⟩ := f <;> simp [ownName]

theorem fileNames_eq (hloc : t.locate p = .ok p.place) (hdir : t.isDirAt p.place) :
    t.fileNames p = (t.filesBelow p.place).filterMap ownName := by
  have hlisted : t.fileNames p = t.files.filterMap fun f =>
      if f.1.length == p.place.length + 1 && p.place.isPrefixOf f.1 then f.1.getLast?
      else none := by
    rw [fileNames, hloc]
    exact if_pos hdir
  rw [hlisted, filesBelow_eq, List.filterMap_filterMap]
  congr 1
  funext f
  obtain ⟨l, content⟩ := f
  ext name
  simp only [Option.bind_eq_some_iff, strip_eq_some_iff, ownName_eq_some_iff]
  constructor
  · intro h
    split at h
    · rename_i hown
      simp only [Bool.and_eq_true, beq_iff_eq, List.isPrefixOf_iff_prefix] at hown
      obtain ⟨hlength, names, rfl⟩ := hown
      obtain ⟨last, rfl⟩ : ∃ last, names = [last] := by
        rw [← List.length_eq_one_iff]
        simpa using hlength
      obtain rfl : last = name := by simpa using h
      exact ⟨([last], content), ⟨List.cons_ne_nil _ _, rfl⟩, rfl⟩
    · cases h
  · rintro ⟨⟨names, content'⟩, ⟨-, heq⟩, rfl⟩
    obtain ⟨rfl, rfl⟩ := Prod.mk.inj heq
    simp

theorem mem_fileNames_iff (hloc : t.locate p = .ok p.place) (hdir : t.isDirAt p.place)
    {name : String} : name ∈ t.fileNames p ↔ (t.fileAt? (p.place ++ [name])).isSome := by
  rw [fileNames_eq hloc hdir, ← lookup_filesBelow (List.cons_ne_nil _ _), isSome_lookup_iff]
  simp only [List.mem_filterMap, ownName_eq_some_iff, List.mem_map]

theorem nodup_fileNames (hloc : t.locate p = .ok p.place)
    (hdir : t.isDirAt p.place) (h : ((t.filesBelow p.place).map Prod.fst).Nodup) :
    (t.fileNames p).Nodup := by
  rw [fileNames_eq hloc hdir]
  have hown : (t.filesBelow p.place).filterMap ownName
      = ((t.filesBelow p.place).map Prod.fst).filterMap fun names => ownName (names, []) := by
    rw [List.filterMap_map]
    congr 1
    funext f
    obtain ⟨_ | ⟨a, _ | ⟨b, names⟩⟩, content⟩ := f <;> rfl
  rw [hown]
  refine h.filterMap ?_
  intro names names' name hname hname'
  rw [Option.mem_def, ownName_eq_some_iff] at hname hname'
  exact hname.trans hname'.symm

end Dissect.FileTree
