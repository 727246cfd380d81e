import Dissect.Proofs.FileTree.Fresh
import Dissect.Proofs.Output.UnitFiles
import Dissect.Proofs.Partition.Bindings
import Dissect.Proofs.Partition.Files
import Dissect.Proofs.Partition.LineLayout
import Dissect.Proofs.Partition.PatternDepth

namespace Dissect.Output

open Syntax Text Dissect.Partition FileTree

/-- What comes behind the stem of a unit's file: nothing, or a number from two on. -/
def IsOrdinal (ordinal : String) : Prop :=
  ordinal = "" ∨ ∃ k, 2 ≤ k ∧ ordinal = "_" ++ toString k

theorem le_of_isStemChar {c : Char} (h : isStemChar c) : c.val ≤ 127 := by
  have hrange : ('A'.val ≤ c.val ∧ c.val ≤ 'Z'.val ∨ 'a'.val ≤ c.val ∧ c.val ≤ 'z'.val) ∨
      '0'.val ≤ c.val ∧ c.val ≤ '9'.val ∨ c = '_' := by
    have hchar : ((decide ('A'.val ≤ c.val ∧ c.val ≤ 'Z'.val) ||
        (decide ('a'.val ≤ c.val) && decide (c.val ≤ 'z'.val))) ||
        (decide ('0'.val ≤ c.val) && decide (c.val ≤ '9'.val)) || c == '_') = true := h
    simpa [or_assoc] using hchar
  rcases hrange with (⟨-, h⟩ | ⟨-, h⟩) | ⟨-, h⟩ | rfl
  · exact UInt32.le_trans h (by decide)
  · exact UInt32.le_trans h (by decide)
  · exact UInt32.le_trans h (by decide)
  · decide

theorem utf8ByteSize_of_isStem {stem : String} (h : IsStem stem) :
    stem.utf8ByteSize = stem.length := by
  have hchars : ∀ cs : List Char, (∀ c ∈ cs, isStemChar c) →
      (cs.flatMap String.utf8EncodeChar).length = cs.length := by
    intro cs hcs
    induction cs with
    | nil => rfl
    | cons c cs ih =>
        obtain ⟨hc, hcs⟩ := List.forall_mem_cons.mp hcs
        rw [List.flatMap_cons, List.length_append, String.length_utf8EncodeChar,
          Char.utf8Size_eq_one_iff.mpr (le_of_isStemChar hc), ih hcs, List.length_cons,
          Nat.add_comm]
  rw [← length_encode, Utf8.encode, hchars _ h, String.length_toList]

theorem exists_ordinal {used : List String} {u : SourceUnit} {file : String}
    (h : IsFirstFree used (u.kind.directory ++ "/" ++ fileStem u.name) file) :
    ∃ ordinal, IsOrdinal ordinal ∧ IsStem (fileStem u.name ++ ordinal) ∧
      file = u.kind.directory ++ "/" ++ (fileStem u.name ++ ordinal ++ ".js") := by
  rcases h with ⟨-, rfl⟩ | ⟨-, k, hk, rfl, -⟩
  · refine ⟨"", .inl rfl, ?_, ?_⟩
    · rw [String.append_empty]
      exact isStem_fileStem u.name
    · simp only [String.append_empty, String.append_assoc]
  · refine ⟨"_" ++ toString k, .inr ⟨k, hk, rfl⟩, ?_, ?_⟩
    · rw [← String.append_assoc]
      exact isStem_numbered (isStem_fileStem u.name) k
    · simp only [Partition.numbered, String.append_assoc]

/-- A name in the path of the unit's file is longer than a file can have. -/
def hasLongName (e : Placement) : Bool :=
  (Path.namesOf e.file.toList).any fun name => nameLimit < name.utf8ByteSize

theorem short_directory (kind : UnitKind) : kind.directory.utf8ByteSize ≤ 15 := by
  cases kind <;> decide

theorem utf8ByteSize_fileName {stem : String} (h : IsStem stem) :
    (stem ++ ".js").utf8ByteSize = stem.length + 3 := by
  have hthree : ".js".utf8ByteSize = 3 := by decide
  rw [String.utf8ByteSize_append, utf8ByteSize_of_isStem h, hthree]

theorem hasLongName_iff {kind : UnitKind} {stem : String} {e : Placement} (hstem : IsStem stem)
    (hfile : e.file = kind.directory ++ "/" ++ (stem ++ ".js")) :
    hasLongName e ↔ nameLimit < stem.length + 3 := by
  have hdirectory := short_directory kind
  rw [hasLongName, hfile, namesOf_of_isStem kind hstem, ← utf8ByteSize_fileName hstem]
  simp only [List.any_cons, List.any_nil, Bool.or_false, Bool.or_eq_true, decide_eq_true_eq]
  exact or_iff_right (Nat.not_lt.mpr (Nat.le_trans hdirectory (by decide)))

/-- The file of each unit: the directory of its kind, and its stem with an ordinal. -/
theorem exists_namesOf_of_mem_zip {units : List SourceUnit} {ue : SourceUnit × Placement}
    (hue : ue ∈ units.zip (placements units)) :
    ∃ ordinal, IsOrdinal ordinal ∧
      Path.namesOf ue.2.file.toList
        = [ue.1.kind.directory, fileStem ue.1.name ++ ordinal ++ ".js"] ∧
      (hasLongName ue.2 ↔ nameLimit < (fileStem ue.1.name).length + ordinal.length + 3) := by
  obtain ⟨i, hi, rfl⟩ := List.getElem_of_mem hue
  rw [List.length_zip, Nat.lt_min] at hi
  rw [List.getElem_zip]
  obtain ⟨ordinal, hordinal, hstem, hfile⟩ := exists_ordinal
    ((assigned_placements units).firstFree i _ _ (List.getElem?_eq_getElem hi.1)
      (List.getElem?_eq_getElem hi.2))
  refine ⟨ordinal, hordinal, ?_, ?_⟩
  · rw [hfile, namesOf_of_isStem _ hstem]
  · rw [hasLongName_iff hstem hfile, String.length_append]

def unitRoom : Nat := roomFor [unitsName, UnitKind.arrowFunction.directory] + (nameLimit + 1)

/-- How writing the files of units ends in a directory that holds nothing: at the first name that is
too long, if there is one. -/
def written (s : Store) (entries : List Placement) : Except RunError (List Path) :=
  match entries.find? hasLongName with
  | none => .ok (entries.map s.pathFor)
  | some e =>
      .error (.store (.write (s.pathFor e).toText ⟨.nameTooLong, (s.pathFor e).toText⟩))

theorem isPlain_directory (kind : UnitKind) : IsPlain kind.directory := by
  obtain ⟨hdot, hdots⟩ := plain_directory kind
  exact ⟨hdot, hdots, slash_not_mem_directory kind, by cases kind <;> decide⟩

theorem isPlain_fileName {stem : String} (h : IsStem stem) : IsPlain (stem ++ ".js") := by
  obtain ⟨hdot, hdots⟩ := plain_fileName stem
  refine ⟨hdot, hdots, slash_not_mem_of_isStem h, ?_⟩
  rw [String.toList_append, List.mem_append, not_or]
  refine ⟨fun hc => ?_, by decide⟩
  exact absurd (h _ hc) (by decide)

theorem isPlain_unitsName : IsPlain unitsName := by
  refine ⟨?_, ?_, ?_, ?_⟩ <;> decide

theorem roomFor_directory_le (kind : UnitKind) :
    roomFor [unitsName, kind.directory] + (nameLimit + 1) ≤ unitRoom := by
  have hdirectory := short_directory kind
  have hlongest : UnitKind.arrowFunction.directory.utf8ByteSize = 15 := by decide
  simp only [unitRoom, roomFor, hlongest]
  omega

variable {s : Store} {t : FileTree} {e : Placement} {kind : UnitKind} {stem : String}

theorem pathFor_eq (s : Store) (hstem : IsStem stem)
    (hfile : e.file = kind.directory ++ "/" ++ (stem ++ ".js")) :
    s.pathFor e = s.dir.join ([unitsName, kind.directory] ++ [stem ++ ".js"]) := by
  rw [Store.pathFor, hfile, namesOf_of_isStem kind hstem, Store.unitsDir]
  simp only [Path.join, List.append_assoc, List.cons_append, List.nil_append]

theorem hasRoom_directory (hdir : HasDir t s.dir)
    (hroom : s.dir.toText.utf8ByteSize + unitRoom ≤ pathLimit) (kind : UnitKind) :
    HasRoom s.dir [unitsName, kind.directory] where
  path := not_mem_of_checkText (locate_eq_ok_iff.mp hdir.located).1
  plain := by simp [isPlain_unitsName, isPlain_directory]
  room := by
    have hdirectory := roomFor_directory_le kind
    omega

theorem hasRoom_fileName (hdir : HasDir t s.dir)
    (hroom : s.dir.toText.utf8ByteSize + unitRoom ≤ pathLimit) (kind : UnitKind)
    (hstem : IsStem stem) (hshort : (stem ++ ".js").utf8ByteSize ≤ nameLimit) :
    HasRoom s.dir ([unitsName, kind.directory] ++ [stem ++ ".js"]) where
  path := (hasRoom_directory hdir hroom kind).path
  plain := List.forall_mem_append.mpr
    ⟨(hasRoom_directory hdir hroom kind).plain, by simp [isPlain_fileName hstem]⟩
  room := by
    have hdirectory := roomFor_directory_le kind
    have hname : roomFor [stem ++ ".js"] = (stem ++ ".js").utf8ByteSize + 1 := rfl
    rw [roomFor_append, hname]
    omega

theorem short_directories (kind : UnitKind) :
    ∀ name ∈ [unitsName, kind.directory], name.utf8ByteSize ≤ nameLimit := by
  have hdirectory : kind.directory.utf8ByteSize ≤ nameLimit :=
    Nat.le_trans (short_directory kind) (by decide)
  simpa [hdirectory] using (by decide : unitsName.utf8ByteSize ≤ nameLimit)

theorem exists_write_pathFor (hdir : HasDir t s.dir) (hlayered : Layered t s.dir.place 3)
    (hroom : s.dir.toText.utf8ByteSize + unitRoom ≤ pathLimit) (hfile : IsFileOf kind e.file)
    (content : Bytes) :
    ∃ t', (hasLongName e = false ∧ t.write (s.pathFor e) content = (t', .ok ()) ∧
        HasDir t' s.dir ∧ Layered t' s.dir.place 3) ∨
      hasLongName e = true ∧
        t.write (s.pathFor e) content = (t', .error ⟨.nameTooLong, (s.pathFor e).toText⟩) := by
  obtain ⟨stem, hstem, hfile⟩ := hfile
  have hlayered : Layered t s.dir.place ([unitsName, kind.directory].length + 1) := hlayered
  have hlong := hasLongName_iff hstem hfile
  rw [← utf8ByteSize_fileName hstem] at hlong
  rw [pathFor_eq s hstem hfile]
  by_cases hlimit : nameLimit < (stem ++ ".js").utf8ByteSize
  · obtain ⟨t', hwrite⟩ := exists_write_nameTooLong hdir hlayered
      (hasRoom_directory hdir hroom kind) (short_directories kind) (isPlain_fileName hstem) hlimit
      content
    exact ⟨t', .inr ⟨hlong.mpr hlimit, hwrite⟩⟩
  · have hshort := Nat.not_lt.mp hlimit
    obtain ⟨t', hwrite, hdir', hlayered'⟩ := exists_write hdir hlayered
      (hasRoom_fileName hdir hroom kind hstem hshort)
      (List.forall_mem_append.mpr ⟨short_directories kind, by simpa using hshort⟩) content
    have hfits : hasLongName e = false := Bool.eq_false_iff.mpr fun h => hlimit (hlong.mp h)
    exact ⟨t', .inl ⟨hfits, hwrite, hdir', hlayered'⟩⟩

variable {σ : Type} {r : Runner} {sourceFile : String} {content : SourceUnit → String}
  {units : List (SourceUnit × Placement)} {w : Surroundings σ}

theorem carry_writeUnitFiles_layered
    (hcontent : ∀ ue ∈ units, s.unitContent r.parse sourceFile ue.1 = .ok (content ue.1))
    (hfiles : ∀ ue ∈ units, IsFileOf ue.1.kind ue.2.file)
    (hroom : s.dir.toText.utf8ByteSize + unitRoom ≤ pathLimit)
    (hdir : HasDir w.files s.dir) (hlayered : Layered w.files s.dir.place 3)
    (calls : Plan.Handler Call σ) (time : Float) :
    ∃ stop w', Runner.carry calls (r.writeUnitFiles s sourceFile units) time w
      = ⟨.done (written s (units.map Prod.snd)), stop, w'⟩ := by
  induction units generalizing time w with
  | nil => exact ⟨time, w, rfl⟩
  | cons ue rest ih =>
      obtain ⟨u, e⟩ := ue
      obtain ⟨hu, hcontent⟩ := List.forall_mem_cons.mp hcontent
      obtain ⟨he, hfiles⟩ := List.forall_mem_cons.mp hfiles
      rw [Runner.writeUnitFiles, Runner.carry_bind_ok (Runner.carry_of_ok .tree hu time w),
        List.map_cons]
      obtain ⟨files, ⟨hshort, hwrite, hdir', hlayered'⟩ | ⟨hlong, hwrite⟩⟩ :=
        exists_write_pathFor hdir hlayered hroom he (Utf8.encode (content u))
      · rw [Runner.carry_bind_ok (Runner.carry_putText_ok hwrite time)]
        obtain ⟨stop, w', hcarry⟩ :=
          ih (w := { w with files }) hcontent hfiles hdir' hlayered' (time + 0.0)
        rw [written, List.find?_cons, hshort]
        rw [written] at hcarry
        cases hfirst : (rest.map Prod.snd).find? hasLongName with
        | none =>
            rw [hfirst] at hcarry
            exact ⟨_, _, Runner.carry_bind_ok hcarry _⟩
        | some first =>
            rw [hfirst] at hcarry
            exact ⟨_, _, Runner.carry_bind_error hcarry _⟩
      · have hend : written s (e :: rest.map Prod.snd)
            = .error (Runner.refused (s.pathFor e) ⟨.nameTooLong, (s.pathFor e).toText⟩) := by
          rw [written, List.find?_cons, hlong]
          rfl
        rw [hend]
        exact ⟨_, _, Runner.carry_bind_error (Runner.carry_putText_error hwrite time) _⟩

theorem carry_writeUnitFiles_fresh {parse : Parser} {strict : Bool} {source : Bytes} {file : String}
    {p : Partition} (hsplit : Partition.split parse strict source file = .ok p)
    (hstubs : StubsFit s r.parse file p.units) (hfresh : IsFresh w.files s.dir)
    (hroom : s.dir.toText.utf8ByteSize + unitRoom ≤ pathLimit) (calls : Plan.Handler Call σ)
    (time : Float) :
    ∃ stop w', Runner.carry calls (r.writeUnitFiles s file (p.units.zip p.entries)) time w
      = ⟨.done (written s p.entries), stop, w'⟩ := by
  have hstep := inStep_of_split hsplit
  obtain ⟨content, hcontent⟩ := exists_unitContent hstubs
  have heach : ∀ ue ∈ p.units.zip p.entries,
      s.unitContent r.parse file ue.1 = .ok (content ue.1) :=
    fun ue hue => hcontent ue.1 (List.of_mem_zip hue).1
  have hcarry := carry_writeUnitFiles_layered heach (fun ue hue => hstep.isFileOf hue) hroom
    hfresh.toHasDir (hfresh.layered (by decide)) calls time
  rwa [hstep.map_snd_zip] at hcarry

/-- Each unit's file is named for the whole stem of the unit. Writing the files into a directory
that holds nothing comes to an end: at the first file whose name is too long, which is refused for
it, or with all files written if there is none. -/
theorem writeUnitFiles_fresh {parse : Parser} {strict : Bool} {source : Bytes} {file : String}
    {p : Partition} (hsplit : Partition.split parse strict source file = .ok p)
    (hstubs : StubsFit s r.parse file p.units) (hfresh : IsFresh w.files s.dir)
    (hroom : s.dir.toText.utf8ByteSize + unitRoom ≤ pathLimit) (calls : Plan.Handler Call σ)
    (time : Float) :
    (∀ ue ∈ p.units.zip p.entries, ∃ ordinal, IsOrdinal ordinal ∧
      Path.namesOf ue.2.file.toList
        = [ue.1.kind.directory, fileStem ue.1.name ++ ordinal ++ ".js"] ∧
      (hasLongName ue.2 ↔ nameLimit < (fileStem ue.1.name).length + ordinal.length + 3)) ∧
    ∃ stop w', Runner.carry calls (r.writeUnitFiles s file (p.units.zip p.entries)) time w
      = ⟨.done (written s p.entries), stop, w'⟩ := by
  refine ⟨?_, carry_writeUnitFiles_fresh hsplit hstubs hfresh hroom calls time⟩
  rw [(entries_of_split hsplit).1]
  exact fun ue hue => exists_namesOf_of_mem_zip hue

theorem isFresh_out : IsFresh ⟨[["out"]], []⟩ ⟨"", ["out"]⟩ where
  located := by decide
  isDir := by decide
  dirs := by
    intro names hne hmem
    exact hne (by simpa [Path.place, Location.enter] using hmem)
  files := fun _ _ => List.not_mem_nil

theorem writeUnitFiles_fresh_namelessPair :
    let source := Utf8.encode "ab"
    let s : Store := ⟨⟨"", ["out"]⟩, true⟩
    let r : Runner := ⟨fun _ => some leadingFunction, true, "local", true, .standard, 3, 2.0, none,
      true⟩
    let w : Surroundings Unit := ⟨⟨[["out"]], []⟩, 0.0, [], [], ()⟩
    ∃ p, split (fun _ => some namelessPair) true source "input.js" = .ok p ∧
      StubsFit s r.parse "input.js" p.units ∧ IsFresh w.files s.dir ∧
      s.dir.toText.utf8ByteSize + unitRoom ≤ pathLimit ∧
      (∀ ue ∈ p.units.zip p.entries, ∃ ordinal, IsOrdinal ordinal ∧
        Path.namesOf ue.2.file.toList
          = [ue.1.kind.directory, fileStem ue.1.name ++ ordinal ++ ".js"] ∧
        (hasLongName ue.2 ↔ nameLimit < (fileStem ue.1.name).length + ordinal.length + 3)) ∧
      ∃ stop w', Runner.carry ⟨fun _ m => (none, m), fun _ => 0.0⟩
          (r.writeUnitFiles s "input.js" (p.units.zip p.entries)) 0.0 w
        = ⟨.done (written s p.entries), stop, w'⟩ := by
  intro source s r w
  have hok : (findings (Utf8.encode "ab") none 0 namelessPair).isOk := rfl
  obtain ⟨p, hp⟩ := exists_split_of_isOk hok rfl true "input.js"
  have hstubs : StubsFit s r.parse "input.js" p.units :=
    fun _ u _ => ⟨leadingFunction, rfl, cutsNoChar_leadingFunction _⟩
  have hroom : s.dir.toText.utf8ByteSize + unitRoom ≤ pathLimit := by decide
  exact ⟨p, hp, hstubs, isFresh_out, hroom,
    writeUnitFiles_fresh (w := w) hp hstubs isFresh_out hroom _ 0.0⟩

def letters (n : Nat) : String := String.ofList (List.replicate n 'a')

theorem forall_mem_letters (n : Nat) : ∀ c ∈ (letters n).toList, c = 'a' := by
  intro c hc
  rw [letters, String.toList_ofList] at hc
  exact List.eq_of_mem_replicate hc

theorem isStem_letters (n : Nat) : IsStem (letters n) := by
  intro c hc
  rw [forall_mem_letters n c hc]
  decide

theorem length_letters (n : Nat) : (letters n).length = n := by
  rw [letters, String.length_ofList, List.length_replicate]

theorem length_encode_letters (n : Nat) : (Utf8.encode (letters n)).length = n := by
  rw [length_encode, utf8ByteSize_of_isStem (isStem_letters n), length_letters]

def declarationText (n : Nat) : String := "var " ++ letters n ++ ";"

def declaration (n : Nat) : Tree :=
  .node ⟨"program", true, false, false, 0, 4 + n + 1, none⟩
    [.node ⟨"variable_declaration", true, false, false, 0, 4 + n + 1, none⟩
      [.node ⟨"variable_declarator", true, false, false, 4, 4 + n, none⟩
        [.node ⟨"identifier", true, false, false, 4, 4 + n, some "name"⟩ []]]]

theorem text_of_append {t : Tree} {a b c : String} (hstart : t.label.start = (Utf8.encode a).length)
    (hstop : t.label.stop = (Utf8.encode a).length + (Utf8.encode b).length) :
    t.text (Utf8.encode (a ++ b ++ c)) = .ok b := by
  rw [Tree.text, Utf8.decode_eq_ok_iff, Tree.octets, Utf8.slice, hstart, hstop, Utf8.encode_append,
    Utf8.encode_append, List.append_assoc, List.drop_left, Nat.add_sub_cancel_left, List.take_left]

theorem text_declared {n : Nat} {t : Tree} (hstart : t.label.start = 4)
    (hstop : t.label.stop = 4 + n) : t.text (Utf8.encode (declarationText n)) = .ok (letters n) :=
  text_of_append hstart (hstop.trans (congrArg (4 + ·) (length_encode_letters n).symm))

theorem ascii_declarationText (n : Nat) : (declarationText n).toList.all (·.val ≤ 127) := by
  have hletters : (letters n).toList.all (·.val ≤ 127) :=
    List.all_eq_true.mpr fun c hc => decide_eq_true (le_of_isStemChar (isStem_letters n c hc))
  simp only [declarationText, String.toList_append, List.all_append, Bool.and_eq_true]
  exact ⟨⟨by decide, hletters⟩, by decide⟩

theorem shallow_declaration (n : Nat) : Shallow (declaration n) := of_decide_eq_true rfl

theorem exists_split_declaration (n : Nat) : ∃ p u,
    split (fun _ => some (declaration n)) true (Utf8.encode (declarationText n)) "input.js"
      = .ok p ∧ p.units[0]? = some u ∧ u.kind = .variable ∧ u.name = letters n := by
  have hlegible := legible_of_ascii (ascii_declarationText n) (declaration n)
  obtain ⟨ds, hds⟩ := (okIffRoom_findings hlegible none 0).ok (shallow_declaration n)
  have hok : (findings (Utf8.encode (declarationText n)) none 0 (declaration n)).isOk := by
    rw [hds]
    rfl
  obtain ⟨p, hp⟩ := exists_split_of_isOk hok rfl true "input.js"
  obtain ⟨t, ht, hrule, hdeclares⟩ : ∃ t, ((declaration n).nodes.filter isUnit)[0]? = some t ∧
      unitRule? t.label.type = some (.variable, .declarators) ∧
      Declares (Utf8.encode (declarationText n)) [.name (.plain (letters n))] t.children :=
    ⟨_, rfl, rfl, .declarator rfl rfl (.identifier rfl (text_declared rfl rfl)) .nil⟩
  obtain ⟨u, hu, hkind, -, -, hname⟩ := exists_unit_of_declares hp rfl ht hrule hdeclares
  refine ⟨p, u, hp, hu, hkind, hname.trans ?_⟩
  change "_".intercalate [letters n] = letters n
  exact String.intercalate_singleton

theorem fileStem_letters {n : Nat} (h : 0 < n) : fileStem (letters n) = letters n := by
  refine fileStem_of_alphanum ?_ ?_
  · intro hempty
    have hlength := length_letters n
    rw [hempty, String.length_empty] at hlength
    omega
  · intro c hc
    rw [forall_mem_letters n c hc]
    decide

theorem exists_entries_of_head {parse : Parser} {strict : Bool} {source : Bytes} {file : String}
    {p : Partition} {u : SourceUnit} (hsplit : Partition.split parse strict source file = .ok p)
    (hu : p.units[0]? = some u) :
    ∃ e rest, p.entries = e :: rest ∧
      e.file = u.kind.directory ++ "/" ++ (fileStem u.name ++ ".js") := by
  rw [(entries_of_split hsplit).1, placements]
  cases hunits : p.units with
  | nil => simp [hunits] at hu
  | cons v rest =>
      obtain rfl : v = u := by simpa [hunits] using hu
      refine ⟨_, _, rfl, ?_⟩
      rcases isFirstFree_fileFor [] v with ⟨-, hfile⟩ | ⟨hused, -⟩
      · exact hfile.trans (String.append_assoc ..)
      · cases hused

/-- The file of a unit whose name has 253 letters is refused in a directory that holds nothing. -/
theorem exists_writeUnitFiles_nameTooLong :
    let s : Store := ⟨⟨"", ["out"]⟩, false⟩
    let r : Runner := ⟨fun _ => none, true, "local", true, .standard, 3, 2.0, none, true⟩
    let w : Surroundings Unit := ⟨⟨[["out"]], []⟩, 0.0, [], [], ()⟩
    ∃ p e stop w', split (fun _ => some (declaration 253)) true
        (Utf8.encode (declarationText 253)) "input.js" = .ok p ∧
      IsFresh w.files s.dir ∧ e ∈ p.entries ∧
      Path.namesOf e.file.toList = ["variables", letters 253 ++ ".js"] ∧
      (letters 253 ++ ".js").utf8ByteSize = 256 ∧
      Runner.carry ⟨fun _ m => (none, m), fun _ => 0.0⟩
          (r.writeUnitFiles s "input.js" (p.units.zip p.entries)) 0.0 w
        = ⟨.done (.error (.store (.write (s.pathFor e).toText
            ⟨.nameTooLong, (s.pathFor e).toText⟩))), stop, w'⟩ := by
  intro s r w
  obtain ⟨p, u, hp, hu, hkind, hname⟩ := exists_split_declaration 253
  obtain ⟨e, rest, hentries, hfile⟩ := exists_entries_of_head hp hu
  have hplain : u.kind.directory ++ "/" ++ (fileStem u.name ++ ".js")
      = UnitKind.variable.directory ++ "/" ++ (letters 253 ++ ".js") := by
    rw [hkind, hname, fileStem_letters (by decide)]
  rw [hplain] at hfile
  have hlong : hasLongName e = true := by
    rw [hasLongName_iff (isStem_letters 253) hfile, length_letters]
    decide
  have hwritten : written s p.entries
      = .error (.store (.write (s.pathFor e).toText ⟨.nameTooLong, (s.pathFor e).toText⟩)) := by
    rw [written, hentries, List.find?_cons, hlong]
  have hstubs : StubsFit s r.parse "input.js" p.units := nofun
  obtain ⟨stop, w', hcarry⟩ := carry_writeUnitFiles_fresh (w := w) hp hstubs isFresh_out (by decide)
    ⟨fun _ m => (none, m), fun _ => 0.0⟩ 0.0
  refine ⟨p, e, stop, w', hp, isFresh_out, ?_, ?_, ?_, hwritten ▸ hcarry⟩
  · rw [hentries]
    exact List.mem_cons_self
  · rw [hfile, namesOf_of_isStem _ (isStem_letters 253)]
    rfl
  · rw [utf8ByteSize_fileName (isStem_letters 253), length_letters]

end Dissect.Output
