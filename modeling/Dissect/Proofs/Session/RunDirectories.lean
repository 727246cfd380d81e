import Dissect.Proofs.Session.Finished
import Dissect.Proofs.Session.Lifecycle

namespace Dissect.Session

open Dissect.Partition

variable {σ : Type} {s s' : Session σ} {root : Path}

/-- The name is a name inside a directory, made of safe characters. -/
structure IsComponent (name : String) : Prop where
  nonempty : name ≠ ""
  safe : ∀ c ∈ name.toList, c.isAlphanum ∨ c = '_'
  noSlash : '/' ∉ name.toList
  noDots : name ≠ "." ∧ name ≠ ".."

/-- The directory is the root followed by one name, and leads right into the root. -/
def LiesIn (root dir : Path) : Prop :=
  ∃ name, IsComponent name ∧ dir = ⟨root.root, root.parts ++ [name]⟩ ∧
    dir.place = root.place ++ [name]

def Apart (dir dir' : Path) : Prop := ∀ loc : Location, dir.place <+: loc → ¬ dir'.place <+: loc

/-- An identifier of a job: eight hexadecimal digits. -/
structure IsJobId (id : String) : Prop where
  length : id.length = 8
  digits : id.toList ⊆ "0123456789abcdefABCDEF".toList

/-- A request without a name for its run is met with a job, under the next identifier. -/
structure MeetsNameless (root : Path) (s : Session σ) (sourcePath : String) (job : Job) : Prop where
  outputRoot : s.service.outputRoot = root
  jobId : IsJobId s.takeId.1
  answer : ∃ runName, (runName = none ∨ runName = some "") ∧
    (s.start sourcePath runName).1 = .ok (Service.startedAnswer job)

theorem isComponent_fileStem (name : String) : IsComponent (fileStem name) where
  nonempty := (isNormalStem_fileStem name).nonempty
  safe c hc := by simpa [isStemChar] using isStem_fileStem name c hc
  noSlash := (isName_fileStem name).plain
  noDots := plain_fileStem name

theorem liesIn_runDirectory (root : Path) (sourcePath : String) (runName : Option String) :
    LiesIn root (Service.runDirectory root sourcePath runName) :=
  ⟨_, isComponent_fileStem _, rfl, Runner.place_join_name root (plain_fileStem _)⟩

theorem IsJobId.ne_empty {id : String} (h : IsJobId id) : id ≠ "" := by
  rintro rfl
  exact absurd h.length (by decide)

theorem IsJobId.isAlphanum {id : String} (h : IsJobId id) : ∀ c ∈ id.toList, c.isAlphanum := by
  intro c hc
  have hall : "0123456789abcdefABCDEF".toList.all Char.isAlphanum = true := by decide
  exact List.all_eq_true.mp hall c (h.digits hc)

def jobStem (sourcePath id : String) : String :=
  fileStem ((Path.ofText sourcePath).stem ++ "_" ++ id)

theorem jobDirectory_nameless (t : Service) (sourcePath id : String) {runName : Option String}
    (h : runName = none ∨ runName = some "") :
    t.jobDirectory sourcePath runName id = t.outputRoot.join [jobStem sourcePath id] := by
  have hunderscore : (Path.ofText sourcePath).stem ++ "_" ++ id ≠ "" := by
    intro hempty
    have hlength := congrArg String.length hempty
    simp at hlength
  have hnone : runName.filter (!·.isEmpty) = none := by
    rcases h with rfl | rfl <;> rfl
  simp only [Service.jobDirectory, Service.runDirectory, hnone, Option.getD_none,
    filter_some_of_ne_empty hunderscore, Option.getD_some, jobStem]

theorem jobStem_ne {id id' : String} (h : IsJobId id) (h' : IsJobId id') (hne : id ≠ id')
    (sourcePath sourcePath' : String) : jobStem sourcePath id ≠ jobStem sourcePath' id' :=
  fileStem_append_underscore_ne _ _ hne h.ne_empty (h.length.trans h'.length.symm) h.isAlphanum
    h'.isAlphanum

theorem outputDir_eq_of_startedAnswer {job job' : Job}
    (h : Service.startedAnswer job = Service.startedAnswer job') :
    job.outputDir = job'.outputDir := by
  rw [Service.startedAnswer, Service.startedAnswer, Service.success, Service.success,
    Json.obj.injEq] at h
  simp only [List.cons.injEq, Prod.mk.injEq, Json.str.injEq] at h
  exact h.2.2.1.2

theorem eq_of_start {sourcePath : String} {runName : Option String} {job : Job}
    (hid : s.takeId.1 ≠ "")
    (h : (s.start sourcePath runName).1 = .ok (Service.startedAnswer job)) :
    job.id = s.takeId.1 ∧
      job.outputDir = (s.service.jobDirectory sourcePath runName s.takeId.1).toText := by
  rw [start_of_complaint (complaint_of_start h) hid runName] at h
  have hanswer := (Except.ok.inj h).symm
  exact ⟨id_eq_of_startedAnswer hanswer, outputDir_eq_of_startedAnswer hanswer⟩

theorem toText_join (root : Path) (name : String) :
    (root.join [name]).toText = root.root ++ "/".intercalate (root.parts ++ [name]) := by
  rw [Path.toText, if_neg (by simp [Path.join])]
  rfl

theorem toText_join_injective (root : Path) {name name' : String}
    (h : (root.join [name]).toText = (root.join [name']).toText) : name = name' := by
  rw [toText_join, toText_join, String.append_right_inj] at h
  rcases eq_or_ne root.parts [] with hparts | hparts
  · simpa [hparts] using h
  · rw [String.intercalate_append_of_ne_nil hparts (List.cons_ne_nil _ _),
      String.intercalate_append_of_ne_nil hparts (List.cons_ne_nil _ _),
      String.append_right_inj] at h
    simpa using h

theorem apart_join (root : Path) {name name' : String} (hne : name ≠ name')
    (h : name ≠ "." ∧ name ≠ "..") (h' : name' ≠ "." ∧ name' ≠ "..") :
    Apart (root.join [name]) (root.join [name']) := by
  intro loc hloc hloc'
  rw [Runner.place_join_name root h] at hloc
  rw [Runner.place_join_name root h'] at hloc'
  have heq := (List.prefix_of_prefix_length_le hloc hloc' (by simp)).eq_of_length (by simp)
  exact hne (List.singleton_inj.mp (List.append_cancel_left heq))

theorem meetsNameless_of_complaint {sourcePath : String} (hid : IsJobId s.takeId.1)
    (h : Service.complaint s.world.files sourcePath = .ok none) :
    MeetsNameless s.service.outputRoot s sourcePath (s.startedJob sourcePath none) :=
  ⟨rfl, hid, none, .inl rfl, congrArg Prod.fst (start_of_complaint h hid.ne_empty none)⟩

theorem MeetsNameless.eq {sourcePath : String} {job : Job}
    (h : MeetsNameless root s sourcePath job) :
    job.id = s.takeId.1 ∧ job.outputDir = (root.join [jobStem sourcePath s.takeId.1]).toText := by
  obtain ⟨runName, hrunName, hanswer⟩ := h.answer
  obtain ⟨hid, hdir⟩ := eq_of_start h.jobId.ne_empty hanswer
  rw [jobDirectory_nameless _ _ _ hrunName, h.outputRoot] at hdir
  exact ⟨hid, hdir⟩

/-- Every run goes into a directory right inside the root. Jobs with different identifiers that were
requested without a name for their run, whatever their sources are, go into different directories,
and into ones apart. -/
theorem runDirectories_apart (root : Path) :
    (∀ sourcePath runName, LiesIn root (Service.runDirectory root sourcePath runName)) ∧
      ∀ {σ : Type} {s s' : Session σ} {sourcePath sourcePath' : String} {job job' : Job},
        MeetsNameless root s sourcePath job → MeetsNameless root s' sourcePath' job' →
        job.id ≠ job'.id →
        job.outputDir ≠ job'.outputDir ∧
          (root.IsWritten → Apart (Path.ofText job.outputDir) (Path.ofText job'.outputDir)) := by
  refine ⟨liesIn_runDirectory root, ?_⟩
  intro σ s s' sourcePath sourcePath' job job' h h' hne
  obtain ⟨hid, hdir⟩ := h.eq
  obtain ⟨hid', hdir'⟩ := h'.eq
  rw [hid, hid'] at hne
  have hstems := jobStem_ne h.jobId h'.jobId hne sourcePath sourcePath'
  obtain rfl := h.outputRoot
  have hdirs : ∀ source id, IsRunDirectory s.service
      (s.service.outputRoot.join [jobStem source id]) :=
    fun _ _ => ⟨_, rfl⟩
  rw [hdir, hdir']
  constructor
  · intro htext
    exact hstems (toText_join_injective _ htext)
  · intro hroot
    rw [(hdirs _ _).ofText_toText hroot, (hdirs _ _).ofText_toText hroot]
    exact apart_join _ hstems (plain_fileStem _) (plain_fileStem _)

def stemless (id : String) : Session Unit :=
  { unanswered (emptySources 3) with
    world := ⟨((FileTree.empty.write ⟨"", ["_.js"]⟩ []).1.write ⟨"", ["é.js"]⟩ []).1, 5.0, [], [],
      ()⟩
    ids := [id] }

theorem runDirectories_apart_stemless :
    ∃ job job', MeetsNameless ⟨"", ["output"]⟩ (stemless "1234abcd") "_.js" job ∧
      MeetsNameless ⟨"", ["output"]⟩ (stemless "abcd1234") "é.js" job' ∧
      job.outputDir = "output/1234abcd" ∧ job'.outputDir = "output/abcd1234" ∧
      Apart (Path.ofText job.outputDir) (Path.ofText job'.outputDir) := by
  have hfirst : Service.complaint (stemless "1234abcd").world.files "_.js" = .ok none := by
    decide +kernel
  have hsecond : Service.complaint (stemless "abcd1234").world.files "é.js" = .ok none := by
    decide +kernel
  have h := meetsNameless_of_complaint ⟨by decide, by decide⟩ hfirst
  have h' := meetsNameless_of_complaint ⟨by decide, by decide⟩ hsecond
  refine ⟨_, _, h, h', ?_, ?_, ?_⟩
  · decide +kernel
  · decide +kernel
  · exact ((runDirectories_apart _).2 h h' (by decide)).2 (Path.isWritten_ofText "output")

end Dissect.Session
