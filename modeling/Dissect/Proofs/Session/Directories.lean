import Dissect.Proofs.Session.Finished
import Dissect.Proofs.Session.Lifecycle
import Dissect.Proofs.Summary.Documents

namespace Dissect.Session

open Text

variable {σ : Type} {s₀ s s' : Session σ} {runs : List Finished} {r : Finished} {dir : Path}

/-- The directories of runs are left alone. -/
structure LeavesRuns (s s' : Session σ) : Prop where
  service : s'.service = s.service
  dirs : s.world.files.dirs ⊆ s'.world.files.dirs
  files : ∀ dir, IsRunDirectory s.service dir →
    s'.world.files.filesBelow dir.place = s.world.files.filesBelow dir.place

/-- A session after runs that finished one after another. Anything else may happen in between, if it
leaves their directories alone. -/
inductive After (s₀ : Session σ) : List Finished → Session σ → Prop
  | start : After s₀ [] s₀
  | between {runs : List Finished} {s s' : Session σ} (earlier : After s₀ runs s)
      (h : LeavesRuns s s') : After s₀ runs s'
  | run {runs : List Finished} {r : Finished} {s s' : Session σ} (earlier : After s₀ runs s)
      (last : Finishes s r s') : After s₀ (runs ++ [r]) s'

def HasFile (s : Session σ) (dir : Path) (names : List String) : Prop :=
  (s.world.files.fileAt? ((dir.join [Output.unitsName]).place ++ names)).isSome

theorem hasFile_congr (h : s'.world.files.filesBelow dir.place = s.world.files.filesBelow dir.place)
    (names : List String) : s'.HasFile dir names ↔ s.HasFile dir names := by
  rw [HasFile, HasFile, Runner.place_units, ← FileTree.lookup_filesBelow (List.cons_ne_nil _ _), h,
    FileTree.lookup_filesBelow (List.cons_ne_nil _ _)]

theorem not_hasFile_of_nil (h : s.world.files.filesBelow dir.place = []) (names : List String) :
    ¬ s.HasFile dir names := by
  rw [HasFile, Runner.place_units, ← FileTree.lookup_filesBelow (List.cons_ne_nil _ _), h]
  exact Bool.false_ne_true

namespace Filled

theorem hasFile_iff (h : Filled s r s') (names : List String) :
    s'.HasFile r.dir names ↔ r.partition.Lists names ∨ s.HasFile r.dir names := by
  obtain ⟨artifacts, hfills⟩ := h.fills
  exact hfills.isSome_fileAt?_iff names

theorem dirs (h : Filled s r s') : s.world.files.dirs ⊆ s'.world.files.dirs := by
  obtain ⟨artifacts, hfills⟩ := h.fills
  exact hfills.written.dirs

theorem inStep (h : Filled s r s') : Output.InStep r.partition.units r.partition.entries := by
  obtain ⟨artifacts, hfills⟩ := h.fills
  exact hfills.inStep

theorem filesBelow_of_ne (h : Filled s r s') (hdir : IsRunDirectory s.service dir)
    (hne : r.dir ≠ dir) :
    s'.world.files.filesBelow dir.place = s.world.files.filesBelow dir.place := by
  obtain ⟨artifacts, hfills⟩ := h.fills
  refine hfills.filesBelow_of_not_below ?_
  intro names hbelow
  obtain ⟨name, hname⟩ := h.dir
  obtain ⟨name', rfl⟩ := hdir
  rw [hname] at hbelow hne
  dsimp only at hbelow
  rw [Runner.place_join_name _ (plain_fileStem name),
    Runner.place_join_name _ (plain_fileStem name'), List.append_assoc,
    List.prefix_append_right_inj, List.singleton_append, List.cons_prefix_cons] at hbelow
  exact hne (by rw [hbelow.1])

theorem holdsTexts (h : Filled s r s') (hold : s.world.files.HoldsTexts r.dir) :
    s'.world.files.HoldsTexts r.dir := by
  obtain ⟨artifacts, hfills⟩ := h.fills
  refine hold.writeAll hfills.written ?_
  intro w hw
  obtain ⟨a, ha, rfl⟩ := List.mem_map.mp hw
  obtain ⟨names, hnames, hpath, hplace⟩ := hfills.exists_names ha
  obtain ⟨text, htext⟩ := hfills.exists_text ha
  exact ⟨names, text, hnames, Prod.ext hpath htext, hplace⟩

end Filled

namespace After

theorem service_eq (hroot : s₀.service.outputRoot.IsWritten) (h : After s₀ runs s) :
    s.service = s₀.service := by
  induction h with
  | start => rfl
  | between earlier h ih => rw [h.service, ih]
  | run earlier last ih =>
      rw [← ih] at hroot
      rw [(last.filled hroot).service, ih]

theorem filled (hroot : s₀.service.outputRoot.IsWritten) (h : After s₀ runs s)
    (hrun : Finishes s r s') : Filled s r s' := by
  rw [← h.service_eq hroot] at hroot
  exact hrun.filled hroot

theorem inStep (hroot : s₀.service.outputRoot.IsWritten) (h : After s₀ runs s) :
    ∀ r ∈ runs, Output.InStep r.partition.units r.partition.entries := by
  induction h with
  | start => simp
  | between earlier h ih => exact ih
  | run earlier last ih =>
      rw [List.forall_mem_append]
      exact ⟨ih, by simpa using (earlier.filled hroot last).inStep⟩

/-- The files for units in a directory are those that some run into it lists, and those that were
there before. -/
theorem hasFile_iff (hroot : s₀.service.outputRoot.IsWritten) (h : After s₀ runs s)
    (hdir : IsRunDirectory s₀.service dir) (names : List String) :
    s.HasFile dir names ↔
      (∃ r ∈ runs, r.dir = dir ∧ r.partition.Lists names) ∨ s₀.HasFile dir names := by
  induction h with
  | start => simp
  | between earlier h ih =>
      rw [← ih]
      rw [← earlier.service_eq hroot] at hdir
      exact hasFile_congr (h.files dir hdir) names
  | @run runs r s s' earlier last ih =>
      have hfilled := earlier.filled hroot last
      simp only [List.mem_append, List.mem_singleton, or_and_right, exists_or, exists_eq_left]
      by_cases hsame : r.dir = dir
      · subst hsame
        rw [hfilled.hasFile_iff names, ih, or_left_comm, or_assoc]
        simp only [true_and]
      · rw [← earlier.service_eq hroot] at hdir
        rw [hasFile_congr (hfilled.filesBelow_of_ne hdir hsame) names, ih]
        simp [hsame]

theorem holdsTexts (hroot : s₀.service.outputRoot.IsWritten) (h : After s₀ runs s)
    (hdir : IsRunDirectory s₀.service dir) (hnone : s₀.world.files.filesBelow dir.place = []) :
    s.world.files.HoldsTexts dir := by
  induction h with
  | start => exact FileTree.holdsTexts_of_nil hnone
  | between earlier h ih =>
      rw [← earlier.service_eq hroot] at hdir
      exact ih.mono (h.files dir hdir) h.dirs
  | @run runs r s s' earlier last ih =>
      have hfilled := earlier.filled hroot last
      by_cases hsame : r.dir = dir
      · subst hsame
        exact hfilled.holdsTexts ih
      · rw [← earlier.service_eq hroot] at hdir
        exact ih.mono (hfilled.filesBelow_of_ne hdir hsame) hfilled.dirs

end After

def Finished.kindDir (r : Finished) (k : UnitKind) : Path :=
  r.dir.join [Output.unitsName, k.directory]

/-- What a kind is summarised from right after a run: its files that the run lists, and those left
over from earlier runs into the same directory. -/
structure SummarisedFrom (earlier : List Finished) (r : Finished) (s : Session σ) (k : UnitKind)
    (docs : List (String × String)) (left : List String) : Prop where
  names : (docs.map Prod.fst).Perm (r.partition.fileNames k ++ left)
  distinct : left.Nodup
  leftOver : ∀ name, name ∈ left ↔
    (∃ r' ∈ earlier, r'.dir = r.dir ∧ name ∈ r'.partition.fileNames k) ∧
      name ∉ r.partition.fileNames k
  documents : ∀ doc ∈ docs, Summary.IsDocument s.world.files (r.kindDir k) doc
  requests : ∀ id job, s.world.jobs.find? id = some job → Path.ofText job.outputDir = r.dir →
    s.service.Summarises s.world.jobs s.world.files id k (r.kindDir k) docs

/-- What a directory holds right after a run into it that began in one session and ended in another,
when other runs went before. -/
structure DirectoryAfter (s₀ : Session σ) (earlier : List Finished) (s : Session σ) (r : Finished)
    (s' : Session σ) : Prop where
  sourceMap : s'.world.files.read (r.dir.join [Output.sourceMapName])
    = .ok (Utf8.encode r.partition.sourceMap.indented)
  units : ∀ ue ∈ r.partition.units.zip r.partition.entries, ∃ text,
    Output.Store.unitContent ⟨r.dir, s.service.runner.stubs⟩ s.service.runner.parse
      r.partition.sourceFile ue.1 = .ok text ∧
    s'.world.files.read (Output.Store.pathFor ⟨r.dir, s.service.runner.stubs⟩ ue.2)
      = .ok (Utf8.encode text)
  others : ∀ names, ¬ r.partition.Lists names →
    s'.world.files.fileAt? ((r.dir.join [Output.unitsName]).place ++ names)
      = s.world.files.fileAt? ((r.dir.join [Output.unitsName]).place ++ names)
  files : ∀ names, s'.HasFile r.dir names ↔
    (∃ r' ∈ earlier ++ [r], r'.dir = r.dir ∧ r'.partition.Lists names) ∨ s₀.HasFile r.dir names
  job : ∀ id, r.job? = some id →
    ∃ job, s'.world.jobs.find? id = some job ∧ Path.ofText job.outputDir = r.dir
  listed : r.partition.IsWritable → ∀ id job kind, s'.world.jobs.find? id = some job →
    Path.ofText job.outputDir = r.dir →
    s'.listUnits id kind = .ok (Service.success [("original_file", .str r.partition.sourceFile),
      ("units_dir", .str (r.dir.join [Output.unitsName]).toText),
      ("total_units", .nat (r.partition.entriesOfKind kind).length),
      ("units", .arr ((r.partition.entriesOfKind kind).map Placement.toJson))])
  summarised : s₀.world.files.filesBelow r.dir.place = [] →
    ∀ k, ∃ docs left, SummarisedFrom earlier r s' k docs left

theorem place_kindDir (r : Finished) (k : UnitKind) :
    (r.kindDir k).place = r.dir.place ++ [Output.unitsName, k.directory] := by
  have hunits : Output.unitsName ≠ "." ∧ Output.unitsName ≠ ".." := by decide
  rw [Finished.kindDir, FileTree.place_join, List.foldl_cons, List.foldl_cons, List.foldl_nil,
    Output.enter_plain hunits, Output.enter_plain (Output.plain_directory k), List.append_assoc]
  rfl

theorem exists_leftOver {names own : List String} (hnames : names.Nodup) (hown : own.Nodup)
    (hsub : own ⊆ names) :
    ∃ left, names.Perm (own ++ left) ∧ left.Nodup ∧
      ∀ name, name ∈ left ↔ name ∈ names ∧ name ∉ own := by
  refine ⟨names.filter (· ∉ own), ?_, hnames.filter _, by simp⟩
  have hall : (own ++ names.filter (· ∉ own)).Nodup := by
    rw [List.nodup_append]
    refine ⟨hown, hnames.filter _, ?_⟩
    rintro name hname _ hleft rfl
    rw [List.mem_filter, decide_eq_true_eq] at hleft
    exact hleft.2 hname
  rw [List.perm_ext_iff_of_nodup hnames hall]
  intro name
  by_cases hname : name ∈ own
  · simp [hname, hsub hname]
  · simp [hname]

theorem exists_summarisedFrom (hroot : s₀.service.outputRoot.IsWritten)
    (hafter : After s₀ runs s) (hrun : Finishes s r s')
    (hnone : s₀.world.files.filesBelow r.dir.place = []) (k : UnitKind) :
    ∃ docs left, SummarisedFrom runs r s' k docs left := by
  have hfilled := hafter.filled hroot hrun
  have hall : After s₀ (runs ++ [r]) s' := .run hafter hrun
  have hdir : IsRunDirectory s₀.service r.dir := hafter.service_eq hroot ▸ hfilled.dir
  have hinStep := hall.inStep hroot
  obtain ⟨docs, hdocs, hnames, heach, hnodup, hmem⟩ := Summary.exists_documents
    (hall.holdsTexts hroot hdir hnone) (List.cons_ne_nil _ _) (place_kindDir r k)
  have hlisted : ∀ name, name ∈ docs.map Prod.fst ↔
      ∃ r' ∈ runs ++ [r], r'.dir = r.dir ∧ name ∈ r'.partition.fileNames k := by
    intro name
    have hfile : (s'.world.files.fileAt? (r.dir.place
        ++ ([Output.unitsName, k.directory] ++ [name]))).isSome
        ↔ s'.HasFile r.dir [k.directory, name] := by
      rw [HasFile, Runner.place_units]
      rfl
    rw [hmem, hfile, hall.hasFile_iff hroot hdir,
      or_iff_left (not_hasFile_of_nil hnone [k.directory, name])]
    constructor
    · rintro ⟨⟨r', hr', hsame, hlists⟩, -⟩
      exact ⟨r', hr', hsame, (hinStep r' hr').lists_iff.mp hlists⟩
    · rintro ⟨r', hr', hsame, hname⟩
      have hlists := (hinStep r' hr').lists_iff.mpr hname
      exact ⟨⟨r', hr', hsame, hlists⟩, (hinStep r' hr').endsWith_of_lists hlists⟩
  have hown : r.partition.fileNames k ⊆ docs.map Prod.fst := by
    intro name hname
    exact (hlisted name).mpr ⟨r, List.mem_append_right _ List.mem_cons_self, rfl, hname⟩
  obtain ⟨left, hperm, hleft, hiff⟩ :=
    exists_leftOver hnodup (hfilled.inStep.nodup_fileNames k) hown
  refine ⟨docs, left, hperm, hleft, ?_, heach, ?_⟩
  · intro name
    rw [hiff, hlisted]
    constructor
    · rintro ⟨⟨r', hr', hsame, hname⟩, hnot⟩
      refine ⟨⟨r', ?_, hsame, hname⟩, hnot⟩
      rcases List.mem_append.mp hr' with hr' | hr'
      · exact hr'
      · obtain rfl := List.mem_singleton.mp hr'
        exact absurd hname hnot
    · rintro ⟨⟨r', hr', hsame, hname⟩, hnot⟩
      exact ⟨⟨r', List.mem_append_left _ hr', hsame, hname⟩, hnot⟩
  · intro id job hjob hpath
    refine Service.summarises_of_documents s'.service hjob k ?_ hdocs hnames
    rw [hpath]
    rfl

/-- Right after a run its directory holds the files that its source map lists, as the run has made
them, and whatever runs before have left there and it does not list; a summary of a kind is about
all of these. -/
theorem directoryAfter_of_finishes (hroot : s₀.service.outputRoot.IsWritten)
    (hafter : After s₀ runs s) (hrun : Finishes s r s') : DirectoryAfter s₀ runs s r s' := by
  have hfilled := hafter.filled hroot hrun
  have hdir : IsRunDirectory s₀.service r.dir := hafter.service_eq hroot ▸ hfilled.dir
  obtain ⟨artifacts, hfills⟩ := hfilled.fills
  refine ⟨hfills.read_sourceMap, fun ue hue => hfills.read_unit hue, ?_, ?_, hfilled.job, ?_, ?_⟩
  · intro names hlists
    exact hfills.fileAt?_of_not_lists hlists
  · intro names
    exact (After.run hafter hrun).hasFile_iff hroot hdir names
  · intro hwritable id job kind hjob hpath
    exact Service.listUnits_of_read hjob hpath hwritable hfills.read_sourceMap kind
  · intro hnone k
    exact exists_summarisedFrom hroot hafter hrun hnone k

/-- A run that has its directory to itself leaves nothing there but what it lists. -/
theorem DirectoryAfter.lists_of_own (h : DirectoryAfter s₀ runs s r s')
    (hown : ∀ r' ∈ runs, r'.dir ≠ r.dir) (hnone : s₀.world.files.filesBelow r.dir.place = []) :
    (∀ names, s'.HasFile r.dir names ↔ r.partition.Lists names) ∧
      ∀ k, ∃ docs, SummarisedFrom runs r s' k docs [] := by
  constructor
  · intro names
    rw [h.files, or_iff_left (not_hasFile_of_nil hnone names)]
    constructor
    · rintro ⟨r', hr', hsame, hlists⟩
      rcases List.mem_append.mp hr' with hr' | hr'
      · exact absurd hsame (hown r' hr')
      · obtain rfl := List.mem_singleton.mp hr'
        exact hlists
    · intro hlists
      exact ⟨r, List.mem_append_right _ List.mem_cons_self, rfl, hlists⟩
  · intro k
    obtain ⟨docs, left, hdocs⟩ := h.summarised hnone k
    have hleft : left = [] := by
      rw [List.eq_nil_iff_forall_not_mem]
      intro name hname
      obtain ⟨⟨r', hr', hsame, -⟩, -⟩ := (hdocs.leftOver name).mp hname
      exact hown r' hr' hsame
    subst hleft
    exact ⟨docs, hdocs⟩

theorem jobDirectory_named (t : Service) (sourcePath sourcePath' id : String) {name : String}
    (h : name ≠ "") : t.jobDirectory sourcePath (some name) id
      = Service.runDirectory t.outputRoot sourcePath' (some name) := by
  simp only [Service.jobDirectory, Service.runDirectory, filter_some_of_ne_empty h,
    Option.getD_some]

/-- A parser that takes the last six octets of a source for a declaration such as `var a;`. -/
def trailingVariable : Syntax.Parser := fun source =>
  let n := source.length
  some (.node ⟨"program", true, false, false, 0, n, none⟩
    [.node ⟨"variable_declaration", true, false, false, n - 6, n, none⟩
      [.node ⟨"variable_declarator", true, false, false, n - 2, n - 1, none⟩
        [.node ⟨"identifier", true, false, false, n - 2, n - 1, some "name"⟩ []]]])

def twoSources : Session Unit where
  service := ⟨⟨trailingVariable, true, "offline", false, .standard, 3, 1.0, none, false⟩,
    ⟨"", ["output"]⟩⟩
  calls := ⟨fun _ m => (none, m), fun _ => 0.0⟩
  world := ⟨((FileTree.empty.write ⟨"", ["a.js"]⟩ (Utf8.encode "var a;")).1.write
    ⟨"", ["b.js"]⟩ (Utf8.encode "var b;")).1, 5.0, [], [], ()⟩
  ids := ["11111111"]
  tasks := []

def firstRun : Session Unit := (twoSources.dissect "a.js" (some "r")).2

def secondStarted : Session Unit := (firstRun.start "b.js" (some "r")).2

def secondRun : Session Unit := (secondStarted.await "11111111").2

def isSuccess : Awaited → Bool
  | .ended (.ok (.obj (("success", .bool true) :: _))) => true
  | _ => false

theorem exists_of_isSuccess {a : Awaited} (h : isSuccess a) :
    ∃ fields, a = .ended (.ok (Service.success fields)) := by
  rw [isSuccess.eq_def] at h
  split at h
  · exact ⟨_, rfl⟩
  · cases h

theorem isSuccess_runs :
    isSuccess (twoSources.dissect "a.js" (some "r")).1 ∧
      isSuccess (secondStarted.await "11111111").1 ∧
      (Service.complaint firstRun.world.files "b.js").toOption = some none ∧
      secondStarted.tasks.map Prod.fst = ["11111111"] ∧
      (twoSources.partition? "a.js").map (·.fileNames .variable) = some ["a.js"] ∧
      (firstRun.partition? "b.js").map (fun q => (q.fileNames .variable, q.numbers.all (· < 10)))
        = some (["b.js"], true) ∧
      twoSources.world.files.filesBelow
        (Service.runDirectory twoSources.service.outputRoot "a.js" (some "r")).place = [] := by
  decide +kernel

theorem isWritten_output : (Path.mk "" ["output"]).IsWritten :=
  Path.isWritten_ofText "output"

theorem exists_finishes_twice :
    ∃ earlier r, Finishes twoSources earlier firstRun ∧ Finishes firstRun r secondRun ∧
      earlier.dir = r.dir ∧ r.job? = some "11111111" ∧
      earlier.partition.fileNames .variable = ["a.js"] ∧
      r.partition.fileNames .variable = ["b.js"] ∧ r.partition.IsWritable ∧
      twoSources.world.files.filesBelow earlier.dir.place = [] := by
  obtain ⟨hfirst, hsecond, hcomplaint, htasks, hlisted, hlisted', hnofile⟩ := isSuccess_runs
  obtain ⟨fields, hfields⟩ := exists_of_isSuccess hfirst
  obtain ⟨fields', hfields'⟩ := exists_of_isSuccess hsecond
  obtain ⟨p, hp, hnames⟩ := Option.map_eq_some_iff.mp hlisted
  obtain ⟨q, hq, hlisted'⟩ := Option.map_eq_some_iff.mp hlisted'
  obtain ⟨hnames', hnumbers⟩ := Prod.mk.inj hlisted'
  have hwritable : q.IsWritable := by
    intro n hn
    refine Nat.lt_of_lt_of_le ?_ (Nat.le_self_pow (by decide) 10)
    simpa using List.all_eq_true.mp hnumbers n hn
  obtain ⟨job, ids, jobs, hstart, -, -, -⟩ :=
    start_eq (some "r") (toOption_eq_some_iff.mp hcomplaint)
  have hid : job.id = "11111111" := by
    have hkeys : (firstRun.start "b.js" (some "r")).2.tasks.map Prod.fst = ["11111111"] := htasks
    rw [hstart] at hkeys
    exact (List.cons.inj hkeys).1
  have hanswer : (firstRun.start "b.js" (some "r")).1 = .ok (Service.startedAnswer job) := by
    rw [hstart]
  have hstarted : firstRun.start "b.js" (some "r")
      = (.ok (Service.startedAnswer job), secondStarted) := Prod.ext hanswer rfl
  have hended : secondStarted.await job.id
      = (.ended (.ok (Service.success fields')), secondRun) := by
    rw [hid]
    exact Prod.ext hfields' rfl
  have hdissected : twoSources.dissect "a.js" (some "r")
      = (.ended (.ok (Service.success fields)), firstRun) := Prod.ext hfields rfl
  have hfirst' : Finishes twoSources _ firstRun := .foreground hp hdissected
  refine ⟨_, _, hfirst', .background hq hstarted hended, ?_, ?_, hnames, hnames',
    hwritable, hnofile⟩
  · rw [(hfirst'.filled isWritten_output).service]
    exact (jobDirectory_named _ _ "a.js" _ (by decide)).symm
  · rw [hid]

theorem directoryAfter_of_finishes_twice :
    ∃ earlier r, twoSources.service.outputRoot.IsWritten ∧ After twoSources [earlier] firstRun ∧
      Finishes firstRun r secondRun ∧ earlier.dir = r.dir ∧
      DirectoryAfter twoSources [earlier] firstRun r secondRun := by
  obtain ⟨earlier, r, hearlier, hrun, hsame, -⟩ := exists_finishes_twice
  have hafter : After twoSources [earlier] firstRun := .run .start hearlier
  exact ⟨earlier, r, isWritten_output, hafter, hrun, hsame,
    directoryAfter_of_finishes isWritten_output hafter hrun⟩

/-- A job leaves the file of the run before it, which it does not list, and a summary of the one unit
that it lists is about two files. -/
theorem exists_finishes_unlisted :
    ∃ earlier r job docs, After twoSources [earlier] firstRun ∧ Finishes firstRun r secondRun ∧
      secondRun.HasFile r.dir [UnitKind.variable.directory, "a.js"] ∧
      ¬ r.partition.Lists [UnitKind.variable.directory, "a.js"] ∧
      secondRun.world.jobs.find? "11111111" = some job ∧ Path.ofText job.outputDir = r.dir ∧
      secondRun.service.Summarises secondRun.world.jobs secondRun.world.files "11111111"
        .variable (r.kindDir .variable) docs ∧
      docs.length = 2 ∧
      secondRun.listUnits "11111111" (some UnitKind.variable.text) = .ok (Service.success
        [("original_file", .str r.partition.sourceFile),
          ("units_dir", .str (r.dir.join [Output.unitsName]).toText), ("total_units", .nat 1),
          ("units", .arr ((r.partition.entriesOfKind (some UnitKind.variable.text)).map
            Placement.toJson))]) := by
  obtain ⟨earlier, r, hearlier, hrun, hsame, hjob, hnames, hnames', hwritable, hnone⟩ :=
    exists_finishes_twice
  rw [hsame] at hnone
  have hafter : After twoSources [earlier] firstRun := .run .start hearlier
  have hfilled := hafter.filled isWritten_output hrun
  have hlists : earlier.partition.Lists [UnitKind.variable.directory, "a.js"] := by
    rw [(hearlier.filled isWritten_output).inStep.lists_iff, hnames]
    exact List.mem_cons_self
  obtain ⟨job, hfound, hpath⟩ := hfilled.job _ hjob
  obtain ⟨docs, left, hdocs⟩ :=
    exists_summarisedFrom isWritten_output hafter hrun hnone .variable
  refine ⟨earlier, r, job, docs, hafter, hrun, ?_, ?_, hfound, hpath,
    hdocs.requests _ _ hfound hpath, ?_, ?_⟩
  · rw [hfilled.hasFile_iff, ← hsame, (hearlier.filled isWritten_output).hasFile_iff]
    exact .inr (.inl hlists)
  · rw [hfilled.inStep.lists_iff, hnames']
    decide
  · have hleft : left.Perm ["a.js"] := by
      rw [List.perm_ext_iff_of_nodup hdocs.distinct (List.nodup_singleton _)]
      intro name
      rw [hdocs.leftOver, hnames']
      simp +contextual [hsame, hnames]
    have hlength := hdocs.names.length_eq
    rw [hnames', List.length_append, List.length_map, hleft.length_eq] at hlength
    exact hlength
  · obtain ⟨artifacts, hfills⟩ := hfilled.fills
    have hlength : (r.partition.entriesOfKind (some UnitKind.variable.text)).length = 1 := by
      rw [← List.length_map, ← Partition.fileNames, hnames']
      rfl
    rw [← hlength]
    exact Service.listUnits_of_read hfound hpath hwritable hfills.read_sourceMap _

end Dissect.Session
