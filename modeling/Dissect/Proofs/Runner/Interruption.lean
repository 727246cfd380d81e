import Dissect.Proofs.Runner.Artifacts
import Dissect.Proofs.Service.Course

/-!
Runs that are interrupted: whatever the model replies, and whichever file is refused, the files that
a run leaves are those in front of the refused one, each complete, and the stages it has told of are
those that were finished before.
-/

namespace Dissect

open Plan (Event Steps Along)
open Runner (Deed deeds deedOf?)
open Text

/-- How files take part in a run. They are looked at as they are; a file is written, or refused for
any reason and not made. -/
inductive FileTree.Reacts (files : FileTree) : Option (Event Effect) → FileTree → Prop
  | silent : Reacts files none files
  | begun {β : Type} (x : Effect β) : Reacts files (some (.begun x)) files
  | call {β : Type} (c : Call β) (b : β) : Reacts files (some (.answered (.call c) b)) files
  | look : Reacts files (some (.answered .look files)) files
  | report (r : StageReport) (b : Unit) : Reacts files (some (.answered (.report r) b)) files
  | written {path : Path} {content : Bytes} {files' : FileTree}
      (h : files.write path content = (files', .ok ())) :
      Reacts files (some (.answered (.write path content) (.ok ()))) files'
  | refused {path : Path} {content : Bytes} {f : FileFault} {files' : FileTree}
      (hfiles : files'.files = files.files) (hdirs : files.dirs ⊆ files'.dirs) :
      Reacts files (some (.answered (.write path content) (.error f))) files'

theorem FileTree.Reacts.eq_of_silent {files files' : FileTree} (h : files.Reacts none files') :
    files' = files := by
  cases h
  rfl

theorem Surroundings.fits_effects {σ : Type} (calls : Plan.Handler Call σ) :
    (Surroundings.effects calls).Fits fun w e w' => FileTree.Reacts w.files e w'.files where
  silent w := .silent
  begun x w := .begun x
  answered {β x b w w'} h := by
    cases x with
    | call c =>
        obtain rfl := congrArg Prod.snd h
        exact .call c b
    | look =>
        cases h
        exact .look
    | report r =>
        cases h
        exact .report r _
    | write path content =>
        simp only [Surroundings.effects, Surroundings.answerEffect] at h
        rcases hwrite : w.files.write path content with ⟨files, f | _⟩
        · rw [hwrite] at h
          cases h
          obtain ⟨hfiles, hdirs⟩ := FileTree.files_of_write_error hwrite
          exact .refused hfiles hdirs
        · rw [hwrite] at h
          cases h
          exact .written hwrite
  unanswered {β x w w'} h := by
    cases x with
    | call c =>
        obtain rfl := congrArg Prod.snd h
        exact .begun _
    | look | report | write => cases h

/-- Contents are written alike to files that are the same, in directories that are fewer. -/
theorem FileTree.WrittenAll.of_files_eq {t t₁ t' : FileTree} {writes : List (Path × Bytes)}
    (h : t₁.WrittenAll writes t') (hfiles : t₁.files = t.files) (hdirs : t.dirs ⊆ t₁.dirs) :
    ∃ t'', t.WrittenAll writes t'' ∧ t'.files = t''.files := by
  cases h with
  | nil => exact ⟨t, .nil t, hfiles⟩
  | cons first rest =>
      refine ⟨t', .cons ⟨?_, first.located, ?_⟩ rest, rfl⟩
      · exact List.Subset.trans hdirs first.dirs
      · rw [first.files, hfiles]

namespace Runner

def written (ds : List Deed) : List (Path × Bytes) :=
  ds.filterMap fun
    | .wrote path content => some (path, content)
    | _ => none

theorem writtenAll_of_along {t : List (Event Effect)} {files files' : FileTree}
    (h : Along FileTree.Reacts files t files')
    (hnone : ∀ path f, Deed.refused path f ∉ deeds t) :
    files.WrittenAll (written (deeds t)) files' := by
  induction h with
  | nil files => exact .nil files
  | cons react rest ih =>
      cases react with
      | begun | call | look => exact ih hnone
      | report => exact ih fun path f hmem => hnone path f (List.mem_cons_of_mem _ hmem)
      | written hwrite =>
          refine .cons (FileTree.written_of_write hwrite) (ih fun path f hmem => ?_)
          exact hnone path f (List.mem_cons_of_mem _ hmem)
      | refused => exact absurd List.mem_cons_self (hnone _ _)

theorem exists_writtenAll_of_along {t : List (Event Effect)} {files files' : FileTree}
    (h : Along FileTree.Reacts files t files') :
    ∃ middle, files.WrittenAll (written (deeds t)) middle ∧ files'.files = middle.files := by
  induction h with
  | nil files => exact ⟨files, .nil files, rfl⟩
  | cons react rest ih =>
      cases react with
      | begun | call | look | report => exact ih
      | written hwrite =>
          obtain ⟨middle, hall, hsame⟩ := ih
          exact ⟨middle, .cons (FileTree.written_of_write hwrite) hall, hsame⟩
      | refused hfiles hdirs =>
          obtain ⟨middle, hall, hsame⟩ := ih
          obtain ⟨middle', hall', hsame'⟩ := hall.of_files_eq hfiles hdirs
          exact ⟨middle', hall', hsame.trans hsame'⟩

def reported (ds : List Deed) : List StageReport :=
  ds.filterMap fun
    | .reported r => some r
    | _ => none

theorem reports_eq_reported (t : List (Event Effect)) : reports t = reported (deeds t) := by
  rw [reported, deeds, List.filterMap_filterMap, reports]
  congr 1
  funext e
  rcases e with x | ⟨x, b⟩
  · rfl
  · cases x with
    | write path content => cases b <;> rfl
    | call | look | report => rfl

/-- The files that a course has written when it stops. -/
structure Stops {α : Type} (isArtifact : Artifact → Prop) (result : Except RunError α)
    (paths : List Path) (ds : List Deed) (artifacts : List Artifact) : Prop where
  genuine : ∀ a ∈ artifacts, isArtifact a
  inOrder : artifacts.map (·.path) <+: paths
  written : written ds = artifacts.map fun a => (a.path, a.content)
  reported : reported ds = artifacts.flatMap (·.reports)
  refused : ∀ path f, .refused path f ∈ ds →
    artifacts.map (·.path) ++ [path] <+: paths ∧ result = .error (Runner.refused path f)
  whole : (∃ a, result = .ok a) ↔ artifacts.map (·.path) = paths

theorem written_deeds_append (a : Artifact) (ds : List Deed) :
    written (a.deeds ++ ds) = (a.path, a.content) :: written ds := by
  have hreports : written (a.reports.map .reported) = [] := by
    rw [written, List.filterMap_map, List.filterMap_eq_nil_iff]
    exact fun _ _ => rfl
  calc written (a.deeds ++ ds)
      = (a.path, a.content) :: written (a.reports.map .reported) ++ written ds :=
        List.filterMap_append
    _ = (a.path, a.content) :: written ds := by rw [hreports, List.singleton_append]

theorem reported_deeds_append (a : Artifact) (ds : List Deed) :
    reported (a.deeds ++ ds) = a.reports ++ reported ds := by
  have hreports : reported (a.reports.map .reported) = a.reports := by
    rw [reported, List.filterMap_map]
    exact List.filterMap_some
  calc reported (a.deeds ++ ds)
      = reported (a.reports.map .reported) ++ reported ds := List.filterMap_append
    _ = a.reports ++ reported ds := by rw [hreports]

theorem mem_of_refused_mem_deeds_append {a : Artifact} {ds : List Deed} {path : Path}
    {f : FileFault} (h : .refused path f ∈ a.deeds ++ ds) : .refused path f ∈ ds := by
  rw [Artifact.deeds, List.cons_append, List.mem_cons, List.mem_append, List.mem_map] at h
  rcases h with h | ⟨r, -, h⟩ | h
  · cases h
  · cases h
  · exact h

theorem Course.exists_stops {α : Type} {isArtifact : Artifact → Prop} {isEnd : α → Prop}
    {result : Except RunError α} {paths : List Path} {ds : List Deed}
    (h : Course isArtifact isEnd result paths ds) :
    ∃ artifacts, Stops isArtifact result paths ds artifacts := by
  induction h with
  | ends hresult hend =>
      exact ⟨[], by simp, List.nil_prefix, rfl, rfl, by simp, by simp [hresult]⟩
  | fails hresult =>
      exact ⟨[], by simp, List.nil_prefix, rfl, rfl, by simp, by simp [hresult]⟩
  | @refused path paths f hresult =>
      refine ⟨[], by simp, List.nil_prefix, rfl, rfl, ?_, by simp [hresult]⟩
      intro path' f' hmem
      cases List.mem_singleton.mp hmem
      exact ⟨List.prefix_append [path] paths, hresult⟩
  | @wrote a paths ds hartifact rest ih =>
      obtain ⟨artifacts, hstops⟩ := ih
      refine ⟨a :: artifacts, ?_, ?_, ?_, ?_, ?_, ?_⟩
      · exact List.forall_mem_cons.mpr ⟨hartifact, hstops.genuine⟩
      · exact List.cons_prefix_cons.mpr ⟨rfl, hstops.inOrder⟩
      · rw [written_deeds_append, hstops.written, List.map_cons]
      · rw [reported_deeds_append, hstops.reported, List.flatMap_cons]
      · intro path f hmem
        obtain ⟨hpaths, hresult⟩ := hstops.refused path f (mem_of_refused_mem_deeds_append hmem)
        exact ⟨List.cons_prefix_cons.mpr ⟨rfl, hpaths⟩, hresult⟩
      · rw [hstops.whole, List.map_cons, List.cons_inj_right]

section

variable {s : Output.Store} {part : Partition}

theorem place_join_name (dir : Path) {name : String} (h : name ≠ "." ∧ name ≠ "..") :
    (dir.join [name]).place = dir.place ++ [name] := by
  rw [FileTree.place_join, List.foldl_cons, List.foldl_nil, Output.enter_plain h]

theorem place_units (dir : Path) (names : List String) :
    (dir.join [Output.unitsName]).place ++ names = dir.place ++ Output.unitsName :: names := by
  rw [place_join_name dir (by decide), List.append_assoc, List.singleton_append]

theorem place_pathFor_of_mem (hstep : Output.InStep part.units part.entries) {e : Placement}
    (he : e ∈ part.entries) :
    (s.pathFor e).place = s.unitsDir.place ++ Path.namesOf e.file.toList := by
  rw [← hstep.map_snd_zip] at he
  obtain ⟨ue, hue, rfl⟩ := List.mem_map.mp he
  exact Output.place_pathFor s (hstep.isFileOf hue)

theorem exists_name_of_mem {path : Path}
    (h : path ∈ [s.sourceMapPath, s.graphPath, s.analysisPath]) :
    ∃ name, name ≠ Output.unitsName ∧ path = s.dir.join [name] ∧
      path.place = s.dir.place ++ [name] := by
  simp only [List.mem_cons, List.not_mem_nil, or_false] at h
  rcases h with rfl | rfl | rfl
  · exact ⟨_, by decide, rfl, place_join_name s.dir (by decide)⟩
  · exact ⟨_, by decide, rfl, place_join_name s.dir (by decide)⟩
  · exact ⟨_, by decide, rfl, place_join_name s.dir (by decide)⟩

theorem exists_place_of_mem (hstep : Output.InStep part.units part.entries) {path : Path}
    (hpath : path ∈ artifactPaths s part) :
    ∃ names, names ≠ [] ∧ path = s.dir.join names ∧ path.place = s.dir.place ++ names := by
  rw [artifactPaths, List.mem_append] at hpath
  rcases hpath with hunit | hother
  · obtain ⟨e, he, rfl⟩ := List.mem_map.mp hunit
    refine ⟨Output.unitsName :: Path.namesOf e.file.toList, List.cons_ne_nil _ _, ?_, ?_⟩
    · rw [Output.Store.pathFor, Output.Store.unitsDir, Path.join, Path.join, Path.join,
        List.append_assoc, List.singleton_append]
    · rw [place_pathFor_of_mem hstep he, Output.Store.unitsDir, place_units]
  · obtain ⟨name, -, hname⟩ := exists_name_of_mem hother
    exact ⟨[name], List.cons_ne_nil _ _, hname⟩

theorem place_ne_of_mem {path : Path} (h : path ∈ [s.sourceMapPath, s.graphPath, s.analysisPath])
    (names : List String) : path.place ≠ s.unitsDir.place ++ names := by
  obtain ⟨name, hname, -, hplace⟩ := exists_name_of_mem h
  rw [hplace, Output.Store.unitsDir, place_units]
  intro heq
  have hlist := List.append_cancel_left heq
  rw [List.cons.injEq] at hlist
  exact hname hlist.1

theorem nodup_places (hstep : Output.InStep part.units part.entries) :
    ((artifactPaths s part).map Path.place).Nodup := by
  have hentries : ((part.entries.map s.pathFor).map Path.place).Nodup := by
    rw [← hstep.map_pathFor s, List.map_map]
    exact hstep.nodup_places s
  have hothers : [s.sourceMapPath, s.graphPath, s.analysisPath].map Path.place
      = [Output.sourceMapName, Output.graphName, Output.analysisName].map fun name =>
        s.dir.place ++ [name] := by
    simp only [List.map_cons, List.map_nil, Output.Store.sourceMapPath, Output.Store.graphPath,
      Output.Store.analysisPath]
    rw [place_join_name s.dir (by decide), place_join_name s.dir (by decide),
      place_join_name s.dir (by decide)]
  rw [artifactPaths, List.map_append, List.nodup_append]
  refine ⟨hentries, ?_, ?_⟩
  · rw [hothers]
    refine List.Nodup.map ?_ (by decide)
    intro name name' hname
    exact List.singleton_inj.mp (List.append_cancel_left hname)
  · intro place hplace place' hplace'
    rw [List.map_map] at hplace
    obtain ⟨e, he, rfl⟩ := List.mem_map.mp hplace
    obtain ⟨path, hpath, rfl⟩ := List.mem_map.mp hplace'
    rw [Function.comp_apply, place_pathFor_of_mem hstep he]
    exact (place_ne_of_mem hpath _).symm

theorem pathFor_mem_of_sourceMap_mem (hstep : Output.InStep part.units part.entries)
    {paths : List Path} (hpaths : paths <+: artifactPaths s part) (hmem : s.sourceMapPath ∈ paths)
    {e : Placement} (he : e ∈ part.entries) : s.pathFor e ∈ paths := by
  have hunits : part.entries.map s.pathFor <+: artifactPaths s part := List.prefix_append _ _
  rcases List.prefix_or_prefix_of_prefix hpaths hunits with hfew | hall
  · have hplaces := nodup_places (s := s) hstep
    rw [artifactPaths, List.map_append, List.nodup_append] at hplaces
    have hunit := List.mem_map_of_mem (f := Path.place) (hfew.subset hmem)
    exact absurd rfl (hplaces.2.2 _ hunit _ List.mem_cons_self)
  · exact hall.subset (List.mem_map_of_mem he)

end

/-- What a run of a partition leaves of its files in a directory that had none, and what it has told
of. -/
structure Leaves (p : Runner) (s : Output.Store) (part : Partition) (file : String)
    (t : List (Event Effect)) (result : Except RunError RunResult) (files files' : FileTree)
    (artifacts : List Artifact) : Prop where
  genuine : ∀ a ∈ artifacts, IsArtifact p s part file result a
  inOrder : artifacts.map (·.path) <+: artifactPaths s part
  files : files'.files = files.files ++ artifacts.map fun a => (a.path.place, a.content)
  reports : reports t = .partition part.units.length :: artifacts.flatMap (·.reports)
  refused : ∀ path content f, .answered (.write path content) (.error f) ∈ t →
    artifacts.map (·.path) ++ [path] <+: artifactPaths s part ∧
      (f.isAnswer → result = .error (.store (.write path.toText f)))
  whole : (∃ r, result = .ok r) ↔ artifacts.map (·.path) = artifactPaths s part
  mapped : s.sourceMapPath.place ∈ files'.files.map Prod.fst →
    ∀ e ∈ part.entries, (s.pathFor e).place ∈ files'.files.map Prod.fst

section

variable {p : Runner} {s : Output.Store} {part : Partition} {file : String}
  {t : List (Event Effect)} {result : Except RunError RunResult} {files files' : FileTree}

theorem files_of_stops (hstep : Output.InStep part.units part.entries)
    (hfresh : files.filesBelow s.dir.place = []) (halong : Along FileTree.Reacts files t files')
    {isArtifact : Artifact → Prop} {later : List Deed} {artifacts : List Artifact}
    (hwritten : written (deeds t) = written later)
    (hstops : Stops isArtifact result (artifactPaths s part) later artifacts) :
    files'.files = files.files ++ artifacts.map fun a => (a.path.place, a.content) := by
  obtain ⟨middle, hall, hsame⟩ := exists_writtenAll_of_along halong
  rw [hwritten, hstops.written] at hall
  have hplaces : (artifacts.map fun a => (a.path, a.content)).map (·.1.place)
      = (artifacts.map (·.path)).map Path.place := by
    rw [List.map_map, List.map_map]
    rfl
  have hnodup : ((artifacts.map fun a => (a.path, a.content)).map (·.1.place)).Nodup := by
    rw [hplaces]
    exact (nodup_places hstep).sublist (hstops.inOrder.sublist.map _)
  rw [hsame, hall.files hnodup, List.map_map]
  · rfl
  · intro w hw
    obtain ⟨a, ha, rfl⟩ := List.mem_map.mp hw
    obtain ⟨names, hnames, -, hplace⟩ :=
      exists_place_of_mem hstep (hstops.inOrder.subset (List.mem_map_of_mem ha))
    rw [hplace]
    exact FileTree.not_mem_of_filesBelow_nil hfresh hnames

theorem mapped_of_files (hstep : Output.InStep part.units part.entries)
    (hfresh : files.filesBelow s.dir.place = []) {artifacts : List Artifact}
    (hfiles : files'.files = files.files ++ artifacts.map fun a => (a.path.place, a.content))
    (hpaths : artifacts.map (·.path) <+: artifactPaths s part)
    (hmap : s.sourceMapPath.place ∈ files'.files.map Prod.fst) {e : Placement}
    (he : e ∈ part.entries) : (s.pathFor e).place ∈ files'.files.map Prod.fst := by
  rw [hfiles, List.map_append, List.mem_append, List.map_map] at hmap ⊢
  rcases hmap with hbefore | hmap
  · have hplace : s.sourceMapPath.place = s.dir.place ++ [Output.sourceMapName] :=
      place_join_name s.dir (by decide)
    rw [hplace] at hbefore
    exact absurd hbefore (FileTree.not_mem_of_filesBelow_nil hfresh (List.cons_ne_nil _ _))
  · right
    obtain ⟨a, ha, hplace⟩ := List.mem_map.mp hmap
    have hpath : a.path = s.sourceMapPath := by
      refine List.inj_on_of_nodup_map (nodup_places (s := s) hstep) ?_ ?_ hplace
      · exact hpaths.subset (List.mem_map_of_mem ha)
      · exact List.mem_append_right _ List.mem_cons_self
    have hmem : s.sourceMapPath ∈ artifacts.map (·.path) := by
      rw [← hpath]
      exact List.mem_map_of_mem ha
    obtain ⟨b, hb, hunit⟩ := List.mem_map.mp (pathFor_mem_of_sourceMap_mem hstep hpaths hmem he)
    exact List.mem_map.mpr ⟨b, hb, congrArg Path.place hunit⟩

theorem leaves_of_stops (hstep : Output.InStep part.units part.entries)
    (hfresh : files.filesBelow s.dir.place = []) (halong : Along FileTree.Reacts files t files')
    {later : List Deed} {artifacts : List Artifact}
    (hdeeds : deeds t = .reported (.partition part.units.length) :: later)
    (hstops : Stops (IsArtifact p s part file result) result (artifactPaths s part) later
      artifacts) : Leaves p s part file t result files files' artifacts := by
  have hwritten : written (deeds t) = written later := by
    rw [hdeeds]
    rfl
  have hfiles := files_of_stops hstep hfresh halong hwritten hstops
  refine ⟨hstops.genuine, hstops.inOrder, hfiles, ?_, ?_, hstops.whole, ?_⟩
  · rw [reports_eq_reported, hdeeds, ← hstops.reported]
    rfl
  · intro path content f hrefused
    have hdeed : Deed.refused path f ∈ deeds t := List.mem_filterMap.mpr ⟨_, hrefused, rfl⟩
    rw [hdeeds, List.mem_cons] at hdeed
    obtain ⟨hpaths, hresult⟩ := hstops.refused path f (hdeed.resolve_left nofun)
    refine ⟨hpaths, ?_⟩
    intro hanswer
    rw [hresult, Runner.refused, if_pos hanswer]
  · intro hmap e he
    exact mapped_of_files hstep hfresh hfiles hstops.inOrder hmap he

end

/-- A run comes to an end whatever the model replies and whichever of its files is refused. A source
that cannot be split leaves nothing. Any other run leaves its files up to the one that is refused,
each of them complete, and has told of the stages that end with one of these. -/
theorem runText_leaves (p : Runner) (source : Bytes) (dir : Path) (file : String) :
    (p.runText source dir file).run.Halts ∧
      ∀ t result files files', Steps (p.runText source dir file).run t (.done result) →
        Along FileTree.Reacts files t files' → files.filesBelow dir.place = [] →
        (∀ e, Partition.split p.parse p.strict source file = .error e →
          result = .error (.split e) ∧ files' = files ∧ reports t = []) ∧
        ∀ part, Partition.split p.parse p.strict source file = .ok part →
          ∃ artifacts, Leaves p ⟨dir, p.stubs⟩ part file t result files files' artifacts := by
  refine ⟨Plan.halts Service.nonempty_effectAnswer _, ?_⟩
  intro t result files files' hsteps halong hfresh
  rcases runText_does p source dir file (Plan.steps_done_iff.mp hsteps) with
    ⟨e, hsplit, hdeeds, hresult⟩ | ⟨part, later, hsplit, hdeeds, hcourse⟩
  · constructor
    · intro e' he'
      obtain rfl := Except.error.inj (hsplit.symm.trans he')
      have hall := writtenAll_of_along halong (by simp [hdeeds])
      rw [hdeeds] at hall
      refine ⟨hresult, ?_, ?_⟩
      · cases hall
        rfl
      · rw [reports_eq_reported, hdeeds]
        rfl
    · intro part hpart
      rw [hsplit] at hpart
      cases hpart
  · constructor
    · intro e he
      rw [hsplit] at he
      cases he
    · intro part' hpart'
      obtain rfl := Except.ok.inj (hsplit.symm.trans hpart')
      obtain ⟨artifacts, hstops⟩ := hcourse.exists_stops
      have hstep := Output.inStep_of_split hsplit
      exact ⟨artifacts, leaves_of_stops (s := ⟨dir, p.stubs⟩) hstep hfresh halong hdeeds hstops⟩

def obstructed : FileTree :=
  ⟨[["out"], ["out", "3_tree_sitter"], ["out", "3_tree_sitter", "arrow_functions"],
    ["out", "3_tree_sitter", "arrow_functions", "anonymous_arrow_2.js"]], []⟩

def arrowRunner : Runner :=
  ⟨fun _ => some Output.namelessPair, true, "offline", true, .standard, 3, 1.0, none, false⟩

def arrowRun : Plan Effect (Except RunError RunResult) :=
  (arrowRunner.runText (Utf8.encode "ab") ⟨"", ["out"]⟩ "input.js").run

def writeFault? {α : Type} : Except RunError α → Option FileFault
  | .error (.store (.write _ f)) => some f
  | _ => none

theorem exists_of_writeFault? {α : Type} {r : Except RunError α} {f : FileFault}
    (h : writeFault? r = some f) : ∃ path, r = .error (.store (.write path f)) := by
  rw [writeFault?.eq_def] at h
  split at h
  · cases h
    exact ⟨_, rfl⟩
  · cases h

/-- The file of the second of two units is refused; that of the first is there. -/
theorem runText_leaves_obstructed :
    ∃ t path files' part artifacts,
      let result := .error (.store (.write path ⟨.isDirectory,
        "out/3_tree_sitter/arrow_functions/anonymous_arrow_2.js"⟩))
      Steps arrowRun t (.done result) ∧ Along FileTree.Reacts obstructed t files' ∧
      obstructed.filesBelow (Path.place ⟨"", ["out"]⟩) = [] ∧
      files'.files.map Prod.fst
        = [["out", "3_tree_sitter", "arrow_functions", "anonymous_arrow.js"]] ∧
      Partition.split arrowRunner.parse arrowRunner.strict (Utf8.encode "ab") "input.js"
        = .ok part ∧
      Leaves arrowRunner ⟨⟨"", ["out"]⟩, arrowRunner.stubs⟩ part "input.js" t result obstructed
        files' artifacts := by
  let calls : Plan.Handler Call Unit := ⟨fun _ m => (none, m), fun _ => 0.0⟩
  let last := Plan.advance (Surroundings.effects calls) arrowRun 0.0 ⟨obstructed, 0.0, [], [], ()⟩
  have hlast : last.plan.result?.bind writeFault? = some ⟨.isDirectory,
        "out/3_tree_sitter/arrow_functions/anonymous_arrow_2.js"⟩ ∧
      last.state.files.files.map Prod.fst
        = [["out", "3_tree_sitter", "arrow_functions", "anonymous_arrow.js"]] := by
    decide +kernel
  obtain ⟨result, hresult, hfault⟩ := Option.bind_eq_some_iff.mp hlast.1
  obtain ⟨path, rfl⟩ := exists_of_writeFault? hfault
  have hdrives := Plan.drives_advance (Surroundings.fits_effects calls) arrowRun 0.0
    ⟨obstructed, 0.0, [], [], ()⟩
  rw [Plan.eq_done_of_result? hresult] at hdrives
  obtain ⟨t, hsteps, halong⟩ := (hdrives.map Surroundings.files id).exists_along
    FileTree.Reacts.eq_of_silent
  obtain ⟨hnone, hsome⟩ := (runText_leaves arrowRunner (Utf8.encode "ab") ⟨"", ["out"]⟩
    "input.js").2 _ _ _ _ hsteps halong rfl
  cases hsplit : Partition.split arrowRunner.parse arrowRunner.strict (Utf8.encode "ab")
      "input.js" with
  | error e => cases (hnone e hsplit).1
  | ok part =>
      obtain ⟨artifacts, hleaves⟩ := hsome part hsplit
      exact ⟨t, path, _, part, artifacts, hsteps, halong, rfl, hlast.2, rfl, hleaves⟩

end Runner

end Dissect
