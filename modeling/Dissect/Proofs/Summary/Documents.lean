import Dissect.Proofs.FileTree.Below
import Dissect.Proofs.Text.Lines
import Dissect.Service

namespace Dissect

open Text

namespace FileTree

/-- The files below a directory are texts, each at a place of its own that can be read. -/
structure HoldsTexts (t : FileTree) (dir : Path) : Prop where
  distinct : ((t.filesBelow dir.place).map Prod.fst).Nodup
  texts : ∀ f ∈ t.filesBelow dir.place, ∃ text, f.2 = Utf8.encode text
  located : ∀ f ∈ t.filesBelow dir.place, t.locate (dir.join f.1) = .ok (dir.place ++ f.1)

variable {t t' : FileTree} {dir p : Path} {names more : List String}

theorem holdsTexts_of_nil (h : t.filesBelow dir.place = []) : t.HoldsTexts dir := by
  constructor
  all_goals rw [h]
  · exact List.nodup_nil
  · simp
  · simp

namespace HoldsTexts

theorem mono (h : t.HoldsTexts dir) (hfiles : t'.filesBelow dir.place = t.filesBelow dir.place)
    (hdirs : t.dirs ⊆ t'.dirs) : t'.HoldsTexts dir := by
  constructor
  all_goals rw [hfiles]
  · exact h.distinct
  · exact h.texts
  · intro f hf
    exact locate_mono hdirs (h.located f hf)

theorem write {text : String} (h : t.HoldsTexts dir) (hnames : names ≠ [])
    (hplace : (dir.join names).place = dir.place ++ names)
    (hwritten : Written t (dir.join names) (Utf8.encode text) t') : t'.HoldsTexts dir := by
  have hbelow := hwritten.filesBelow hnames hplace
  constructor
  all_goals rw [hbelow]
  · exact nodup_map_fst_setFile h.distinct _ _
  · intro f hf
    rcases eq_or_mem_of_mem_setFile hf with rfl | hf
    · exact ⟨text, rfl⟩
    · exact h.texts f hf
  · intro f hf
    rcases eq_or_mem_of_mem_setFile hf with rfl | hf
    · rw [hwritten.located, hplace]
    · exact locate_mono hwritten.dirs (h.located f hf)

theorem writeAll {writes : List (Path × Bytes)} (h : t.HoldsTexts dir)
    (hwritten : WrittenAll t writes t')
    (hwrites : ∀ w ∈ writes, ∃ names text, names ≠ [] ∧ w = (dir.join names, Utf8.encode text) ∧
      w.1.place = dir.place ++ names) : t'.HoldsTexts dir := by
  induction hwritten with
  | nil t => exact h
  | cons first rest ih =>
      obtain ⟨⟨names, text, hnames, hw, hplace⟩, hlater⟩ := List.forall_mem_cons.mp hwrites
      obtain ⟨rfl, rfl⟩ := Prod.mk.inj hw
      exact ih (h.write hnames hplace first) hlater

theorem exists_mem (h : (t.fileAt? (dir.place ++ names)).isSome) (hnames : names ≠ []) :
    ∃ content, (names, content) ∈ t.filesBelow dir.place := by
  rw [← lookup_filesBelow hnames, isSome_lookup_iff] at h
  obtain ⟨⟨names', content⟩, hmem, rfl⟩ := List.mem_map.mp h
  exact ⟨content, hmem⟩

theorem exists_read (h : t.HoldsTexts dir) (hnames : names ≠ [])
    (hfile : (t.fileAt? (dir.place ++ names)).isSome) :
    ∃ text, t.read (dir.join names) = .ok (Utf8.encode text) := by
  obtain ⟨content, hcontent⟩ := Option.isSome_iff_exists.mp hfile
  have hlookup := hcontent
  rw [← lookup_filesBelow hnames, List.lookup_eq_some_iff] at hlookup
  obtain ⟨front, back, hfiles, -⟩ := hlookup
  have hmem : (names, content) ∈ t.filesBelow dir.place := by
    rw [hfiles]
    exact List.mem_append_right _ List.mem_cons_self
  obtain ⟨text, rfl⟩ := h.texts _ hmem
  have hlocated := h.located _ hmem
  have hplace := eq_place_of_locate hlocated
  rw [hplace] at hlocated hcontent
  exact ⟨text, read_of_located hlocated hcontent⟩

end HoldsTexts

theorem fileNames_eq_nil (h : ¬ (t.locate p = .ok p.place ∧ t.isDirAt p.place)) :
    t.fileNames p = [] := by
  rw [fileNames]
  cases hloc : t.locate p with
  | error cause => rfl
  | ok loc =>
      obtain rfl := eq_place_of_locate hloc
      exact if_neg fun hdir => h ⟨hloc, hdir⟩

theorem located_of_mem_fileNames {name : String} (h : name ∈ t.fileNames p) :
    t.locate p = .ok p.place ∧ t.isDirAt p.place := by
  by_contra hnot
  rw [fileNames_eq_nil hnot] at h
  cases h

theorem join_join (dir : Path) (names names' : List String) :
    (dir.join names).join names' = dir.join (names ++ names') := by
  rw [Path.join, Path.join, Path.join, List.append_assoc]

namespace HoldsTexts

theorem mem_fileNames_iff (h : t.HoldsTexts dir) (hmore : more ≠ [])
    (hplace : (dir.join more).place = dir.place ++ more) {name : String} :
    name ∈ t.fileNames (dir.join more) ↔
      (t.fileAt? (dir.place ++ (more ++ [name]))).isSome := by
  rw [← List.append_assoc, ← hplace]
  constructor
  · intro hname
    obtain ⟨hloc, hdir⟩ := located_of_mem_fileNames hname
    exact (FileTree.mem_fileNames_iff hloc hdir).mp hname
  · intro hfile
    have hbelow := hfile
    rw [hplace, List.append_assoc] at hbelow
    have hnames : more ++ [name] ≠ [] := List.append_ne_nil_of_left_ne_nil hmore _
    obtain ⟨content, hmem⟩ := exists_mem hbelow hnames
    have hlocated := h.located _ hmem
    rw [← join_join] at hlocated
    have hparts : (dir.join more).parts ≠ [] := List.append_ne_nil_of_right_ne_nil _ hmore
    have hloc := locate_of_join hparts (List.cons_ne_nil _ _) hlocated
    exact (FileTree.mem_fileNames_iff hloc (isDirAt_of_locate_join hlocated)).mpr hfile

theorem nodup_fileNames (h : t.HoldsTexts dir)
    (hplace : (dir.join more).place = dir.place ++ more) : (t.fileNames (dir.join more)).Nodup := by
  by_cases hfound : t.locate (dir.join more) = .ok (dir.join more).place ∧
      t.isDirAt (dir.join more).place
  · refine FileTree.nodup_fileNames hfound.1 hfound.2 ?_
    rw [hplace, filesBelow_place_append]
    exact nodup_filterMap_strip h.distinct more
  · rw [fileNames_eq_nil hfound]
    exact List.nodup_nil

end HoldsTexts

end FileTree

namespace Summary

variable {t : FileTree} {dir d : Path} {more : List String}

def IsDocument (t : FileTree) (d : Path) (doc : String × String) : Prop :=
  ∃ content, t.read (d.join [doc.1]) = .ok content ∧ Text.read content = .ok doc.2

theorem exists_documentsOf {names : List String}
    (h : ∀ name ∈ names, ∃ text, t.read (d.join [name]) = .ok (Utf8.encode text)) :
    ∃ docs, documentsOf t d names = .ok docs ∧ docs.map Prod.fst = names ∧
      ∀ doc ∈ docs, IsDocument t d doc := by
  induction names with
  | nil => exact ⟨[], rfl, rfl, by simp⟩
  | cons name names ih =>
      obtain ⟨⟨text, htext⟩, hnames⟩ := List.forall_mem_cons.mp h
      obtain ⟨docs, hdocs, rfl, heach⟩ := ih hnames
      refine ⟨(name, unifyBreaks text) :: docs, ?_, rfl, ?_⟩
      · rw [documentsOf, htext]
        simp only [read_encode, hdocs]
        rfl
      · exact List.forall_mem_cons.mpr ⟨⟨_, htext, read_encode text⟩, heach⟩

theorem mem_sourceNames_iff {name : String} :
    name ∈ sourceNames t d ↔ name ∈ t.fileNames d ∧ name.endsWith ".js" := by
  rw [sourceNames, List.mem_mergeSort, List.mem_filter]

theorem nodup_sourceNames (h : (t.fileNames d).Nodup) : (sourceNames t d).Nodup :=
  (List.mergeSort_perm _ _).nodup_iff.mpr (h.filter _)

theorem exists_documents (h : t.HoldsTexts dir) (hmore : more ≠ [])
    (hplace : (dir.join more).place = dir.place ++ more) :
    ∃ docs, documentsOf t (dir.join more) (sourceNames t (dir.join more)) = .ok docs ∧
      docs.map Prod.fst = sourceNames t (dir.join more) ∧
      (∀ doc ∈ docs, IsDocument t (dir.join more) doc) ∧ (docs.map Prod.fst).Nodup ∧
      ∀ name, name ∈ docs.map Prod.fst ↔
        (t.fileAt? (dir.place ++ (more ++ [name]))).isSome ∧ name.endsWith ".js" := by
  have hread : ∀ name ∈ sourceNames t (dir.join more),
      ∃ text, t.read ((dir.join more).join [name]) = .ok (Utf8.encode text) := by
    intro name hname
    have hfile := (h.mem_fileNames_iff hmore hplace).mp (mem_sourceNames_iff.mp hname).1
    rw [FileTree.join_join]
    exact h.exists_read (List.append_ne_nil_of_left_ne_nil hmore _) hfile
  obtain ⟨docs, hdocs, hnames, heach⟩ := exists_documentsOf hread
  refine ⟨docs, hdocs, hnames, heach, ?_, ?_⟩
  · rw [hnames]
    exact nodup_sourceNames (h.nodup_fileNames hplace)
  · intro name
    rw [hnames, mem_sourceNames_iff, h.mem_fileNames_iff hmore hplace]

end Summary

namespace Service

theorem ofText?_text (k : UnitKind) : UnitKind.ofText? k.text = some k := by
  cases k <;> rfl

/-- A request for a summary of the unit files of a kind is about certain documents: it asks for the
summary of these, and where there are none it asks nothing. -/
structure Summarises (t : Service) (jobs : Job.Registry) (files : FileTree) (id : String)
    (k : UnitKind) (directory : Path) (docs : List (String × String)) : Prop where
  asks : docs ≠ [] → t.summaryOfUnits jobs files id k.text
    = (Summary.ofDocuments t.runner.concurrent t.runner.budget docs
        (Summary.directoryPrompt directory)).bind
        fun s => .done (.ok (summaryAnswer k directory s))
  idle : docs = [] → ∃ answer, t.summaryOfUnits jobs files id k.text = .done answer

theorem isDir_of_mem_sourceNames {files : FileTree} {directory : Path} {name : String}
    (h : name ∈ Summary.sourceNames files directory) : files.isDir directory = .ok true := by
  obtain ⟨hloc, hdir⟩ :=
    FileTree.located_of_mem_fileNames (Summary.mem_sourceNames_iff.mp h).1
  rw [FileTree.isDir, hloc]
  simp only [hdir]

theorem ofDirectory_of_documents {concurrent : Bool} {b : Summary.Budget} {files : FileTree}
    {directory : Path} {docs : List (String × String)} (hsome : docs ≠ [])
    (hdocs : Summary.documentsOf files directory (Summary.sourceNames files directory) = .ok docs)
    (hnames : docs.map Prod.fst = Summary.sourceNames files directory) :
    Summary.ofDirectory concurrent b files directory none
      = .ok (Summary.ofDocuments concurrent b docs (Summary.directoryPrompt directory)) := by
  rw [← hnames] at hdocs
  rw [Summary.ofDirectory, ← hnames]
  cases docs with
  | nil => exact absurd rfl hsome
  | cons doc docs =>
      rw [List.map_cons] at hdocs ⊢
      simp only [hdocs]
      rfl

theorem summarises_of_documents (t : Service) {jobs : Job.Registry} {files : FileTree}
    {id : String} {job : Job} (hjob : jobs.find? id = some job) (k : UnitKind) {directory : Path}
    (hdir : (Path.ofText job.outputDir).join [Output.unitsName, k.directory] = directory)
    {docs : List (String × String)}
    (hdocs : Summary.documentsOf files directory (Summary.sourceNames files directory) = .ok docs)
    (hnames : docs.map Prod.fst = Summary.sourceNames files directory) :
    t.Summarises jobs files id k directory docs := by
  constructor
  all_goals
    intro hsome
    rw [summaryOfUnits, hjob]
    simp only [ofText?_text, hdir]
  · obtain ⟨doc, hdoc⟩ := List.exists_mem_of_ne_nil docs hsome
    have hname : doc.1 ∈ Summary.sourceNames files directory :=
      hnames ▸ List.mem_map_of_mem hdoc
    rw [isDir_of_mem_sourceNames hname]
    simp only [ofDirectory_of_documents hsome hdocs hnames]
  · rw [hsome] at hnames
    rw [Summary.ofDirectory, ← hnames]
    rcases files.isDir directory with f | found
    · exact ⟨_, rfl⟩
    · cases found with
      | false => exact ⟨_, rfl⟩
      | true => exact ⟨_, rfl⟩

end Service

end Dissect
