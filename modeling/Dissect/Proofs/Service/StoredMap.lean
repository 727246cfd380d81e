import Dissect.Json.Access
import Dissect.Proofs.Json.Stored
import Dissect.Proofs.Outcome
import Dissect.Service

namespace Dissect

open Text

namespace FileTree

variable {files : FileTree} {path : Path} {reason : String} {v : Json}

/-- No JSON value can be read from a file, for the reason given. -/
inductive Damaged (files : FileTree) (path : Path) : String → Prop
  | unopened {f : FileFault} (h : files.read path = .error f) : Damaged files path f.message
  | undecoded {content : Bytes} {f : Utf8.Fault} (hread : files.read path = .ok content)
      (h : Text.read content = .error f) : Damaged files path f.message
  | unparsed {content : Bytes} {text : String} {f : Json.Fault}
      (hread : files.read path = .ok content) (htext : Text.read content = .ok text)
      (h : Json.parse text = .error f) (hflat : ∀ e, f ≠ .tooDeep e) :
      Damaged files path (f.message text)

def Overnested (files : FileTree) (path : Path) (e : Json.TooDeep) : Prop :=
  ∃ content text, files.read path = .ok content ∧ Text.read content = .ok text ∧
    Json.parse text = .error (.tooDeep e)

theorem damaged_or_overnested_or_holds (files : FileTree) (path : Path) :
    (∃ reason, files.Damaged path reason) ∨ (∃ e, files.Overnested path e) ∨
      ∃ v, files.Holds path v := by
  cases hread : files.read path with
  | error f => exact .inl ⟨_, .unopened hread⟩
  | ok content =>
      cases htext : Text.read content with
      | error f => exact .inl ⟨_, .undecoded hread htext⟩
      | ok text =>
          cases h : Json.parse text with
          | ok v => exact .inr (.inr ⟨v, content, text, hread, htext, h⟩)
          | error f =>
              cases f with
              | tooDeep e => exact .inr (.inl ⟨e, content, text, hread, htext, h⟩)
              | unexpected | tooLong => exact .inl ⟨_, .unparsed hread htext h nofun⟩

end FileTree

namespace Output.Store

variable {s : Store} {files : FileTree}

theorem loadSourceMap_of_damaged {reason : String}
    (h : files.Damaged s.sourceMapPath reason) :
    ∃ e, s.loadSourceMap files = .error e ∧ e.isExpected = true ∧
      e.message = "Cannot read sourcemap " ++ s.sourceMapPath.toText ++ ": " ++ reason := by
  cases h with
  | @unopened f h =>
      exact ⟨.open s.sourceMapPath.toText f, by rw [loadSourceMap, h], rfl, rfl⟩
  | @undecoded _ f hread h =>
      exact ⟨.decode s.sourceMapPath.toText f, by simp only [loadSourceMap, hread, h], rfl, rfl⟩
  | @unparsed _ text f hread htext h hflat =>
      refine ⟨.parse s.sourceMapPath.toText text f, ?_, rfl, rfl⟩
      cases f with
      | tooDeep e => exact absurd rfl (hflat e)
      | unexpected | tooLong => simp only [loadSourceMap, hread, htext, h]

theorem loadSourceMap_of_overnested {e : Json.TooDeep}
    (h : files.Overnested s.sourceMapPath e) : s.loadSourceMap files = .error (.nesting e) := by
  obtain ⟨content, text, hread, htext, h⟩ := h
  simp only [loadSourceMap, hread, htext, h]

theorem loadSourceMap_of_holds {v : Json} (h : files.Holds s.sourceMapPath v) :
    s.loadSourceMap files = .ok v := by
  obtain ⟨content, text, hread, htext, h⟩ := h
  simp only [loadSourceMap, hread, htext, h]

end Output.Store

namespace Service

/-- A value is made of so many parts: the items of a list, the fields of an object, the characters
of a text. -/
inductive HasParts : Json → Nat → Prop
  | arr (vs : List Json) : HasParts (.arr vs) vs.length
  | obj (fields : List (String × Json)) : HasParts (.obj fields) fields.length
  | str (s : String) : HasParts (.str s) s.length

def ofKind (kind : String) (vs : List Json) : List Json :=
  vs.filter fun v => (v.get "type").text? == some kind

/-- So many units are listed of the entries of a source map: all of them, or those of a kind, which
are looked for among entries that have fields. -/
inductive ListedOf : Option String → Json → Json → Nat → Prop
  | all {kind : Option String} {entries : Json} {n : Nat} (hkind : kind = none ∨ kind = some "")
      (h : HasParts entries n) : ListedOf kind entries entries n
  | kind {kind : String} {vs : List Json} (hkind : kind ≠ "")
      (h : ∀ v ∈ vs, ∃ fields, v = .obj fields) :
      ListedOf (some kind) (.arr vs) (.arr (ofKind kind vs)) (ofKind kind vs).length
  | noFields {kind : String} (hkind : kind ≠ "") : ListedOf (some kind) (.obj []) (.arr []) 0
  | noCharacters {kind : String} (hkind : kind ≠ "") : ListedOf (some kind) (.str "") (.arr []) 0

def entriesOf (fields : List (String × Json)) : Json := (fields.lookup "chunks").getD (.arr [])

/-- A value is a source map whose units can be listed. -/
def IsListable (kind : Option String) (v : Json) : Prop :=
  ∃ fields units n, v = .obj fields ∧ ListedOf kind (entriesOf fields) units n

theorem hasParts_iff {v : Json} {n : Nat} :
    HasParts v n ↔ ∃ vs, items v = .ok vs ∧ vs.length = n := by
  constructor
  · rintro (vs | fields | s)
    · exact ⟨vs, rfl, rfl⟩
    · exact ⟨_, rfl, List.length_map _⟩
    · exact ⟨_, rfl, (List.length_map _).trans String.length_toList⟩
  · rintro ⟨vs, hvs, rfl⟩
    cases v with
    | arr vs =>
        cases hvs
        exact .arr vs
    | obj fields =>
        cases hvs
        rw [List.length_map]
        exact .obj fields
    | str s =>
        cases hvs
        rw [List.length_map, String.length_toList]
        exact .str s
    | null | bool | int | float => cases hvs

theorem count_eq_ok_iff {v : Json} {n : Nat} : count v = .ok n ↔ HasParts v n := by
  rw [hasParts_iff, count]
  cases items v <;> simp

theorem isOfKind_eq_ok_iff {kind : String} {v : Json} {b : Bool} :
    isOfKind kind v = .ok b
      ↔ (∃ fields, v = .obj fields) ∧ b = ((v.get "type").text? == some kind) := by
  cases v with
  | obj fields =>
      have hkind : isOfKind kind (.obj fields)
          = .ok (((Json.obj fields).get "type").text? == some kind) := by
        rw [isOfKind, Json.get, Json.field?]
        cases fields.lookup "type" with
        | none => rfl
        | some k => cases k <;> rfl
      rw [hkind, Except.ok.injEq, eq_comm]
      exact (and_iff_right ⟨fields, rfl⟩).symm
  | null | bool | int | float | str | arr => simp [isOfKind]

theorem filterM_isOfKind_eq_ok_iff {kind : String} {vs found : List Json} :
    vs.filterM (isOfKind kind) = .ok found
      ↔ (∀ v ∈ vs, ∃ fields, v = .obj fields) ∧ found = ofKind kind vs := by
  have hall : (∀ v ∈ vs, ∃ b, isOfKind kind v = .ok b) ↔ ∀ v ∈ vs, ∃ fields, v = .obj fields := by
    simp [isOfKind_eq_ok_iff]
  rw [filterM_eq_ok_iff, hall, and_congr_right_iff]
  intro hfields
  have hsame : (vs.filter fun v => (isOfKind kind v).toOption == some true) = ofKind kind vs := by
    refine List.filter_congr fun v hv => ?_
    rw [isOfKind_eq_ok_iff.mpr ⟨hfields v hv, rfl⟩]
    cases (v.get "type").text? == some kind <;> rfl
  rw [hsame]

theorem notGiven_or_given (kind : Option String) :
    (kind = none ∨ kind = some "") ∨ ∃ k, k ≠ "" ∧ kind = some k := by
  cases kind with
  | none => exact .inl (.inl rfl)
  | some k =>
      by_cases hk : k = ""
      · exact .inl (.inr (congrArg some hk))
      · exact .inr ⟨k, hk, rfl⟩

theorem entriesOfKind_eq_ok_iff {kind : String} (hkind : kind ≠ "") {entries units : Json} :
    entriesOfKind (some kind) entries = .ok units
      ↔ ∃ vs, items entries = .ok vs ∧ (∀ v ∈ vs, ∃ fields, v = .obj fields) ∧
          units = .arr (ofKind kind vs) := by
  rw [entriesOfKind, filter_some_of_ne_empty hkind, bind_eq_ok_iff]
  refine exists_congr fun vs => and_congr_right fun _ => ?_
  rw [bind_eq_ok_iff]
  constructor
  · rintro ⟨found, hfound, ⟨⟩⟩
    obtain ⟨hfields, rfl⟩ := filterM_isOfKind_eq_ok_iff.mp hfound
    exact ⟨hfields, rfl⟩
  · rintro ⟨hfields, rfl⟩
    exact ⟨_, filterM_isOfKind_eq_ok_iff.mpr ⟨hfields, rfl⟩, rfl⟩

theorem listedOf_kind_iff {kind : String} (hkind : kind ≠ "") {entries units : Json} {n : Nat} :
    ListedOf (some kind) entries units n
      ↔ entriesOfKind (some kind) entries = .ok units ∧ count units = .ok n := by
  rw [entriesOfKind_eq_ok_iff hkind]
  constructor
  · intro h
    cases h with
    | all hnone => simp [hkind] at hnone
    | @kind _ vs _ hfields => exact ⟨⟨vs, rfl, hfields, rfl⟩, rfl⟩
    | noFields | noCharacters => exact ⟨⟨[], rfl, nofun, rfl⟩, rfl⟩
  · rintro ⟨⟨vs, hvs, hfields, rfl⟩, hn⟩
    obtain rfl : (ofKind kind vs).length = n := by simpa [count, items] using hn
    -- names of fields and characters have no fields themselves, so there can be none of them
    cases entries with
    | arr entries =>
        cases hvs
        exact .kind hkind hfields
    | obj fields =>
        cases hvs
        cases fields with
        | nil => exact .noFields hkind
        | cons f fields => simp at hfields
    | str s =>
        cases hvs
        obtain rfl : s = "" := by
          rw [← String.toList_eq_nil_iff]
          refine List.eq_nil_iff_forall_not_mem.mpr fun c hc => ?_
          obtain ⟨fields, hfields⟩ := hfields _ (List.mem_map_of_mem hc)
          cases hfields
        exact .noCharacters hkind
    | null | bool | int | float => cases hvs

theorem listedOf_iff {kind : Option String} {entries units : Json} {n : Nat} :
    ListedOf kind entries units n
      ↔ entriesOfKind kind entries = .ok units ∧ count units = .ok n := by
  rcases notGiven_or_given kind with hnone | ⟨k, hk, rfl⟩
  · have hall : entriesOfKind kind entries = .ok entries := by
      rcases hnone with rfl | rfl <;> rfl
    rw [hall, Except.ok.injEq, count_eq_ok_iff]
    constructor
    · intro h
      cases h with
      | all _ hparts => exact ⟨rfl, hparts⟩
      | kind hkind | noFields hkind | noCharacters hkind => simp [hkind] at hnone
    · rintro ⟨rfl, hparts⟩
      exact .all hnone hparts
  · exact listedOf_kind_iff hk

def listing (dir : Path) (fields : List (String × Json)) (units : Json) (n : Nat) : Json :=
  success [("original_file", (fields.lookup "originalFile").getD .null),
    ("units_dir", .str (dir.join [Output.unitsName]).toText), ("total_units", .nat n),
    ("units", units)]

theorem unitsAnswer_eq_ok_iff {dir : Path} {kind : Option String} {v answer : Json} :
    unitsAnswer dir kind v = .ok answer
      ↔ ∃ fields units n, v = .obj fields ∧ ListedOf kind (entriesOf fields) units n ∧
          answer = listing dir fields units n := by
  cases v with
  | obj fields =>
      rw [unitsAnswer, bind_eq_ok_iff]
      constructor
      · rintro ⟨units, hunits, h⟩
        obtain ⟨n, hn, ⟨⟩⟩ := bind_eq_ok_iff.mp h
        exact ⟨fields, units, n, rfl, listedOf_iff.mpr ⟨hunits, hn⟩, rfl⟩
      · rintro ⟨fields, units, n, ⟨⟩, hlisted, rfl⟩
        obtain ⟨hunits, hn⟩ := listedOf_iff.mp hlisted
        exact ⟨units, hunits, bind_eq_ok_iff.mpr ⟨n, hn, rfl⟩⟩
  | null | bool | int | float | str | arr => simp [unitsAnswer]

/-- An answer about the units of a run is one for whatever the file of its source map holds. -/
structure AnswersFrom (files : FileTree) (dir : Path) (kind : Option String)
    (answer : Except ServiceError Json) : Prop where
  damaged : ∀ reason, files.Damaged (dir.join [Output.sourceMapName]) reason →
    answer = .ok (refusal ("Cannot read sourcemap " ++ (dir.join [Output.sourceMapName]).toText
      ++ ": " ++ reason))
  listed : ∀ fields units n, files.Holds (dir.join [Output.sourceMapName]) (.obj fields) →
    ListedOf kind (entriesOf fields) units n → answer = .ok (listing dir fields units n)
  misshapen : ∀ v, files.Holds (dir.join [Output.sourceMapName]) v → ¬IsListable kind v →
    ∃ e, answer = .error (.shape e)
  overnested : ∀ e, files.Overnested (dir.join [Output.sourceMapName]) e →
    answer = .error (.run (.store (.nesting e)))
  /-- there is no answer for a value that is not shaped like a source map, nor for one too deep -/
  unanswered_iff : (∃ e, answer = .error e)
    ↔ (∃ e, files.Overnested (dir.join [Output.sourceMapName]) e) ∨
      ∃ v, files.Holds (dir.join [Output.sourceMapName]) v ∧ ¬IsListable kind v

section

variable {jobs : Job.Registry} {files : FileTree} {id : String} {job : Job}
  (hjob : jobs.find? id = some job) (kind : Option String)

include hjob

theorem listUnits_of_damaged {reason : String}
    (h : files.Damaged ((Path.ofText job.outputDir).join [Output.sourceMapName]) reason) :
    listUnits jobs files id kind = .ok (refusal ("Cannot read sourcemap "
      ++ ((Path.ofText job.outputDir).join [Output.sourceMapName]).toText ++ ": " ++ reason)) := by
  obtain ⟨e, hload, hexpected, hmessage⟩ :=
    Output.Store.loadSourceMap_of_damaged (s := ⟨Path.ofText job.outputDir, true⟩) h
  rw [listUnits, hjob]
  simp only [hload, hexpected, if_true, hmessage, Output.Store.sourceMapPath]

theorem listUnits_of_overnested {e : Json.TooDeep}
    (h : files.Overnested ((Path.ofText job.outputDir).join [Output.sourceMapName]) e) :
    listUnits jobs files id kind = .error (.run (.store (.nesting e))) := by
  rw [listUnits, hjob]
  simp only [Output.Store.loadSourceMap_of_overnested (s := ⟨Path.ofText job.outputDir, true⟩) h]
  rfl

theorem listUnits_of_holds {v : Json}
    (h : files.Holds ((Path.ofText job.outputDir).join [Output.sourceMapName]) v) :
    listUnits jobs files id kind
      = (unitsAnswer (Path.ofText job.outputDir) kind v).mapError .shape := by
  rw [listUnits, hjob]
  simp only [Output.Store.loadSourceMap_of_holds (s := ⟨Path.ofText job.outputDir, true⟩) h]

theorem listUnits_of_listedOf {fields : List (String × Json)} {units : Json} {n : Nat}
    (h : files.Holds ((Path.ofText job.outputDir).join [Output.sourceMapName]) (.obj fields))
    (hlisted : ListedOf kind (entriesOf fields) units n) :
    listUnits jobs files id kind
      = .ok (listing (Path.ofText job.outputDir) fields units n) := by
  rw [listUnits_of_holds hjob kind h,
    unitsAnswer_eq_ok_iff.mpr ⟨fields, units, n, rfl, hlisted, rfl⟩]
  rfl

theorem listUnits_of_not_isListable {v : Json}
    (h : files.Holds ((Path.ofText job.outputDir).join [Output.sourceMapName]) v)
    (hv : ¬IsListable kind v) : ∃ e, listUnits jobs files id kind = .error (.shape e) := by
  rw [listUnits_of_holds hjob kind h]
  cases hanswer : unitsAnswer (Path.ofText job.outputDir) kind v with
  | error e => exact ⟨e, rfl⟩
  | ok answer =>
      obtain ⟨fields, units, n, hfields, hlisted, -⟩ := unitsAnswer_eq_ok_iff.mp hanswer
      exact absurd ⟨fields, units, n, hfields, hlisted⟩ hv

/-- Asked for the units of a job, the service answers unless the file of the source map holds a
value of another shape, or one too deep to be read. -/
theorem listUnits_answersFrom :
    AnswersFrom files (Path.ofText job.outputDir) kind (listUnits jobs files id kind) where
  damaged _ h := listUnits_of_damaged hjob kind h
  listed _ _ _ h hlisted := listUnits_of_listedOf hjob kind h hlisted
  misshapen _ h hv := listUnits_of_not_isListable hjob kind h hv
  overnested _ h := listUnits_of_overnested hjob kind h
  unanswered_iff := by
    constructor
    · rintro ⟨e, he⟩
      rcases files.damaged_or_overnested_or_holds
          ((Path.ofText job.outputDir).join [Output.sourceMapName])
        with ⟨reason, h⟩ | hdeep | ⟨v, h⟩
      · cases (listUnits_of_damaged hjob kind h).symm.trans he
      · exact .inl hdeep
      · refine .inr ⟨v, h, ?_⟩
        rintro ⟨fields, units, n, rfl, hlisted⟩
        cases (listUnits_of_listedOf hjob kind h hlisted).symm.trans he
    · rintro (⟨e, h⟩ | ⟨v, h, hv⟩)
      · exact ⟨_, listUnits_of_overnested hjob kind h⟩
      · obtain ⟨e, he⟩ := listUnits_of_not_isListable hjob kind h hv
        exact ⟨_, he⟩

end

def mapFile (text : String) : FileTree :=
  ⟨[["out"]], [(["out", Output.sourceMapName], Utf8.encode text)]⟩

theorem read_mapFile (text : String) :
    (mapFile text).read ((Path.ofText "out").join [Output.sourceMapName])
      = .ok (Utf8.encode text) := by
  rfl

theorem listUnits_answersFrom_kind :
    let job := Job.queued "j" "app.js" "out" 0.0
    let unit := Json.obj [("type", .str "function")]
    let fields := [("chunks", Json.arr [unit, .obj []])]
    listUnits [("j", job)] (mapFile (Json.obj fields).indented) "j" (some "function")
      = .ok (listing (Path.ofText "out") fields (.arr [unit]) 1) := by
  intro job unit fields
  have hunit : Json.Plain 978 unit := .obj (by simp) (by simpa using .str _ _)
  have hentries : Json.Plain 979 (.arr [unit, .obj []]) :=
    .arr (by simpa using ⟨hunit, .obj (by simp) nofun⟩)
  have hplain : Json.Plain Json.nestingLimit (.obj fields) :=
    .obj (by simp [fields]) (by simpa [fields] using hentries)
  have hlisted : ListedOf (some "function") (entriesOf fields) (.arr [unit]) 1 :=
    @ListedOf.kind "function" [unit, .obj []] (by decide) (by simp [unit])
  have hjob : Job.Registry.find? [("j", job)] "j" = some job := rfl
  have hanswers : AnswersFrom (mapFile (Json.obj fields).indented) (Path.ofText "out")
      (some "function") _ :=
    listUnits_answersFrom hjob (some "function")
  exact hanswers.listed fields _ 1 (FileTree.holds_of_read hplain (read_mapFile _)) hlisted

/-- A list is not shaped like a source map. -/
theorem listUnits_list_unanswered :
    let job := Job.queued "j" "app.js" "out" 0.0
    (mapFile "[]").Holds ((Path.ofText "out").join [Output.sourceMapName]) (.arr []) ∧
      listUnits [("j", job)] (mapFile "[]") "j" none
        = .error (.shape (.noFields (.arr []))) := by
  intro job
  have hholds : (mapFile "[]").Holds ((Path.ofText "out").join [Output.sourceMapName]) (.arr []) :=
    FileTree.holds_of_read (.arr nofun) (read_mapFile _)
  have hjob : Job.Registry.find? [("j", job)] "j" = some job := rfl
  exact ⟨hholds, listUnits_of_holds hjob none hholds⟩

end Service

end Dissect
