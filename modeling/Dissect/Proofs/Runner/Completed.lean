import Dissect.Proofs.FileTree.Below
import Dissect.Proofs.Output.Listed
import Dissect.Proofs.Runner.Interruption

namespace Dissect

open Plan (Event Runs Along)
open Text

def Runner.lookedAt? : Event Effect → Option FileTree
  | .answered .look files => some files
  | _ => none

theorem FileTree.Reacts.of_look {files found files' : FileTree}
    (h : files.Reacts (some (.answered .look found)) files') : found = files ∧ files' = files := by
  generalize he : some (Event.answered Effect.look found) = e at h
  have hlook := congrArg (Option.bind · Runner.lookedAt?) he
  cases h with
  | look =>
      cases hlook
      exact ⟨rfl, rfl⟩
  | silent | begun | call | report | written | refused => cases hlook

namespace Runner

/-- A run of a partition has written all of its files. -/
structure Fills (p : Runner) (s : Output.Store) (part : Partition) (file : String)
    (files files' : FileTree) (artifacts : List Artifact) : Prop where
  inStep : Output.InStep part.units part.entries
  genuine : ∀ a ∈ artifacts, ∃ r, IsArtifact p s part file (.ok r) a
  paths : artifacts.map (·.path) = artifactPaths s part
  written : files.WrittenAll (artifacts.map fun a => (a.path, a.content)) files'

variable {p : Runner} {s : Output.Store} {part : Partition} {file : String}
  {files files' : FileTree} {artifacts : List Artifact}

theorem fills_of_runs_runText {source : Bytes} {dir : Path} {t : List (Event Effect)}
    {r : RunResult} (hruns : Runs (p.runText source dir file).run t (.ok r))
    (halong : Along FileTree.Reacts files t files') :
    ∃ part artifacts, Partition.split p.parse p.strict source file = .ok part ∧
      Fills p ⟨dir, p.stubs⟩ part file files files' artifacts := by
  rcases runText_does p source dir file hruns with
    ⟨e, -, -, hresult⟩ | ⟨part, later, hsplit, hdeeds, hcourse⟩
  · cases hresult
  · obtain ⟨artifacts, hstops⟩ := hcourse.exists_stops
    have hnone : ∀ path f, Deed.refused path f ∉ deeds t := by
      intro path f hmem
      rw [hdeeds, List.mem_cons] at hmem
      cases (hstops.refused path f (hmem.resolve_left nofun)).2
    have hwritten := writtenAll_of_along halong hnone
    have hdeedsWritten : written (deeds t) = artifacts.map fun a => (a.path, a.content) := by
      rw [hdeeds, ← hstops.written]
      rfl
    rw [hdeedsWritten] at hwritten
    refine ⟨part, artifacts, hsplit, Output.inStep_of_split hsplit, ?_, ?_, hwritten⟩
    · intro a ha
      exact ⟨r, hstops.genuine a ha⟩
    · exact hstops.whole.mp ⟨r, rfl⟩

theorem exists_of_runs_run {source dir : Path} {t : List (Event Effect)} {r : RunResult}
    (h : Runs (p.run source dir).run t (.ok r)) :
    ∃ (found : FileTree) (content : Bytes) (u : List (Event Effect)),
      t = .begun .look :: .answered .look found :: u ∧ found.read source = .ok content ∧
      Runs (p.runText content dir source.name).run u (.ok r) := by
  rw [run] at h
  rcases exists_of_runs_bind h with ⟨e, -, hr⟩ | ⟨found, u, v, rfl, hlook, hrest⟩
  · cases hr
  · obtain ⟨found', u', rfl, rfl, hfound⟩ := hlook
    cases hfound
    rcases exists_of_runs_bind hrest with ⟨e, -, hr⟩ | ⟨content, u, v, rfl, hread, hrun⟩
    · cases hr
    · obtain ⟨rfl, hcontent⟩ := hread
      refine ⟨found, content, v, rfl, ?_, hrun⟩
      cases hfile : found.read source with
      | error f =>
          rw [hfile] at hcontent
          cases hcontent
      | ok content' =>
          rw [hfile] at hcontent
          cases hcontent
          rfl

theorem fills_of_runs_run {source dir : Path} {t : List (Event Effect)} {r : RunResult}
    (hruns : Runs (p.run source dir).run t (.ok r))
    (halong : Along FileTree.Reacts files t files') :
    ∃ content part artifacts, files.read source = .ok content ∧
      Partition.split p.parse p.strict content source.name = .ok part ∧
      Fills p ⟨dir, p.stubs⟩ part source.name files files' artifacts := by
  obtain ⟨found, content, u, rfl, hread, hrun⟩ := exists_of_runs_run hruns
  cases halong with
  | cons begun halong =>
      cases begun
      cases halong with
      | cons answered halong =>
          obtain ⟨rfl, rfl⟩ := answered.of_look
          obtain ⟨part, artifacts, hsplit, hfills⟩ := fills_of_runs_runText hrun halong
          exact ⟨content, part, artifacts, hread, hsplit, hfills⟩

namespace Fills

theorem nodup_paths (h : Fills p s part file files files' artifacts) :
    (artifactPaths s part).Nodup :=
  List.Nodup.of_map _ (nodup_places h.inStep)

theorem map_place_written (h : Fills p s part file files files' artifacts) :
    (artifacts.map fun a => (a.path, a.content)).map (·.1.place)
      = (artifactPaths s part).map Path.place := by
  rw [← h.paths, List.map_map, List.map_map]
  rfl

theorem nodup_written (h : Fills p s part file files files' artifacts) :
    ((artifacts.map fun a => (a.path, a.content)).map (·.1.place)).Nodup := by
  rw [h.map_place_written]
  exact nodup_places h.inStep

theorem exists_artifact (h : Fills p s part file files files' artifacts) {path : Path}
    (hpath : path ∈ artifactPaths s part) :
    ∃ r a, IsArtifact p s part file (.ok r) a ∧ a.path = path ∧
      files'.read path = .ok a.content := by
  rw [← h.paths] at hpath
  obtain ⟨a, ha, rfl⟩ := List.mem_map.mp hpath
  obtain ⟨r, hartifact⟩ := h.genuine a ha
  have hread := h.written.read h.nodup_written (a.path, a.content)
    (List.mem_map.mpr ⟨a, ha, rfl⟩)
  exact ⟨r, a, hartifact, rfl, hread⟩

theorem join_name_injective {dir : Path} {name name' : String}
    (h : dir.join [name] = dir.join [name']) : name = name' := by
  have hparts := congrArg Path.parts h
  exact List.singleton_inj.mp (List.append_cancel_left hparts)

theorem pathFor_not_mem (h : Fills p s part file files files' artifacts) {e : Placement}
    (he : e ∈ part.entries) :
    s.pathFor e ∉ [s.sourceMapPath, s.graphPath, s.analysisPath] := by
  have hpaths := h.nodup_paths
  rw [artifactPaths, List.nodup_append] at hpaths
  intro hmem
  exact hpaths.2.2 _ (List.mem_map_of_mem he) _ hmem rfl

theorem read_sourceMap (h : Fills p s part file files files' artifacts) :
    files'.read s.sourceMapPath = .ok (Utf8.encode part.sourceMap.indented) := by
  have hmem : s.sourceMapPath ∈ artifactPaths s part :=
    List.mem_append_right _ List.mem_cons_self
  obtain ⟨r, a, hartifact, hpath, hread⟩ := h.exists_artifact hmem
  rw [hread]
  cases hartifact with
  | unit ha =>
      obtain ⟨hunit, -⟩ := ha
      refine absurd ?_ (h.pathFor_not_mem (List.of_mem_zip hunit).2)
      exact List.mem_cons.mpr (.inl hpath)
  | sourceMap => dsimp only
  | graph =>
      have hname : Output.graphName = Output.sourceMapName := join_name_injective hpath
      exact absurd hname (by decide)
  | analysis =>
      have hname : Output.analysisName = Output.sourceMapName := join_name_injective hpath
      exact absurd hname (by decide)

theorem read_unit (h : Fills p s part file files files' artifacts) {ue : SourceUnit × Placement}
    (hue : ue ∈ part.units.zip part.entries) :
    ∃ text, s.unitContent p.parse file ue.1 = .ok text ∧
      files'.read (s.pathFor ue.2) = .ok (Utf8.encode text) := by
  have he : ue.2 ∈ part.entries := (List.of_mem_zip hue).2
  have hmem : s.pathFor ue.2 ∈ artifactPaths s part :=
    List.mem_append_left _ (List.mem_map_of_mem he)
  obtain ⟨r, a, hartifact, hpath, hread⟩ := h.exists_artifact hmem
  rw [hread]
  have hothers := h.pathFor_not_mem he
  rw [← hpath] at hothers
  cases hartifact with
  | unit ha =>
      obtain ⟨hunit, htext⟩ := ha
      have hpaths := h.inStep.nodup_paths s
      rw [← h.inStep.map_pathFor s] at hpaths
      obtain rfl := List.inj_on_of_nodup_map hpaths hunit hue hpath
      exact ⟨_, htext, rfl⟩
  | sourceMap | graph | analysis => simp at hothers

theorem fileAt?_of_not_lists (h : Fills p s part file files files' artifacts)
    {names : List String} (hlists : ¬ part.Lists names) :
    files'.fileAt? (s.unitsDir.place ++ names) = files.fileAt? (s.unitsDir.place ++ names) := by
  refine h.written.fileAt?_of_not_mem ?_
  rw [h.map_place_written, artifactPaths, List.map_append, List.mem_append, not_or]
  constructor
  · intro hmem
    rw [List.map_map] at hmem
    obtain ⟨e, he, hplace⟩ := List.mem_map.mp hmem
    rw [Function.comp_apply, place_pathFor_of_mem h.inStep he] at hplace
    exact hlists ⟨e, he, List.append_cancel_left hplace⟩
  · intro hmem
    obtain ⟨path, hpath, hplace⟩ := List.mem_map.mp hmem
    exact place_ne_of_mem hpath names hplace

theorem isSome_fileAt?_iff (h : Fills p s part file files files' artifacts)
    (names : List String) :
    (files'.fileAt? (s.unitsDir.place ++ names)).isSome ↔
      part.Lists names ∨ (files.fileAt? (s.unitsDir.place ++ names)).isSome := by
  by_cases hlists : part.Lists names
  · obtain ⟨e, he, rfl⟩ := hlists
    have hmem : s.pathFor e ∈ artifactPaths s part :=
      List.mem_append_left _ (List.mem_map_of_mem he)
    obtain ⟨r, a, -, -, hread⟩ := h.exists_artifact hmem
    rw [← place_pathFor_of_mem h.inStep he, FileTree.fileAt?_of_read hread]
    exact iff_of_true rfl (.inl ⟨e, he, rfl⟩)
  · rw [h.fileAt?_of_not_lists hlists]
    simp [hlists]

theorem exists_names (h : Fills p s part file files files' artifacts) {a : Artifact}
    (ha : a ∈ artifacts) :
    ∃ names, names ≠ [] ∧ a.path = s.dir.join names ∧ a.path.place = s.dir.place ++ names := by
  refine exists_place_of_mem h.inStep ?_
  rw [← h.paths]
  exact List.mem_map_of_mem ha

theorem exists_text (h : Fills p s part file files files' artifacts) {a : Artifact}
    (ha : a ∈ artifacts) : ∃ text, a.content = Utf8.encode text := by
  obtain ⟨r, hartifact⟩ := h.genuine a ha
  cases hartifact with
  | unit ha =>
      cases ha
      dsimp only
      exact ⟨_, rfl⟩
  | sourceMap | graph | analysis =>
      dsimp only
      exact ⟨_, rfl⟩

theorem filesBelow_of_not_below (h : Fills p s part file files files' artifacts) {loc : Location}
    (hloc : ∀ names, ¬ loc <+: s.dir.place ++ names) :
    files'.filesBelow loc = files.filesBelow loc := by
  refine h.written.filesBelow_of_not_below ?_
  intro w hw
  obtain ⟨a, ha, rfl⟩ := List.mem_map.mp hw
  obtain ⟨names, -, -, hplace⟩ := h.exists_names ha
  rw [hplace]
  exact hloc names

end Fills

end Runner

end Dissect
