import Dissect.Proofs.Runner.Writing
import Dissect.Proofs.Service.StoredMap

namespace Dissect

open Text

namespace Partition

def numbers (p : Partition) : List Nat :=
  p.lineCount :: p.entries.flatMap fun e => [e.id, e.startLine, e.endLine]

def entriesOfKind (p : Partition) (kind : Option String) : List Placement :=
  match kind.filter (!·.isEmpty) with
  | none => p.entries
  | some kind => p.entries.filter (·.kind.text == kind)

/-- No number in the source map has more digits than can be written and read. -/
def IsWritable (p : Partition) : Prop := ∀ n ∈ p.numbers, n < 10 ^ Decimal.digitLimit

theorem plain_nat {n : Nat} (h : n < 10 ^ Decimal.digitLimit) (room : Nat) :
    Json.Plain room (.nat n) := by
  refine .int room n ?_
  rw [Int.natAbs_natCast]
  exact (Nat.length_toDigits_le_iff (by decide) (by decide)).mpr h

theorem placement_keys :
    ["id", "name", "type", "file", "startLine", "endLine", "fingerprint"].Nodup := by
  decide

theorem sourceMap_keys : ["originalFile", "lineCount", "chunks"].Nodup := by
  decide

theorem plain_placement {p : Partition} (h : p.IsWritable) {e : Placement} (he : e ∈ p.entries)
    (room : Nat) : Json.Plain (room + 1) e.toJson := by
  have hnumbers : ∀ n ∈ [e.id, e.startLine, e.endLine], n < 10 ^ Decimal.digitLimit := by
    intro n hn
    exact h n (List.mem_cons_of_mem _ (List.mem_flatMap.mpr ⟨e, he, hn⟩))
  simp only [List.forall_mem_cons, List.not_mem_nil, false_implies, implies_true, and_true]
    at hnumbers
  refine .obj placement_keys ?_
  simp only [List.forall_mem_cons, List.not_mem_nil, false_implies, implies_true, and_true]
  exact ⟨plain_nat hnumbers.1 room, .str room _, .str room _, .str room _,
    plain_nat hnumbers.2.1 room, plain_nat hnumbers.2.2 room, .str room _⟩

theorem plain_sourceMap {p : Partition} (h : p.IsWritable) (room : Nat) :
    Json.Plain (room + 3) p.sourceMap := by
  refine .obj sourceMap_keys ?_
  simp only [List.forall_mem_cons, List.not_mem_nil, false_implies, implies_true, and_true]
  refine ⟨.str _ _, plain_nat (h _ List.mem_cons_self) _, .arr fun v hv => ?_⟩
  obtain ⟨e, he, rfl⟩ := List.mem_map.mp hv
  exact plain_placement h he room

end Partition

namespace Service

theorem ofKind_placements (kind : String) (es : List Placement) :
    ofKind kind (es.map Placement.toJson)
      = (es.filter (·.kind.text == kind)).map Placement.toJson := by
  rw [ofKind, List.filter_map]
  rfl

theorem listedOf_placements (p : Partition) (kind : Option String) :
    ListedOf kind (.arr (p.entries.map Placement.toJson))
      (.arr ((p.entriesOfKind kind).map Placement.toJson)) (p.entriesOfKind kind).length := by
  rcases notGiven_or_given kind with hnone | ⟨k, hk, rfl⟩
  · have hentries : p.entriesOfKind kind = p.entries := by rcases hnone with rfl | rfl <;> rfl
    have hparts := HasParts.arr (p.entries.map Placement.toJson)
    rw [List.length_map] at hparts
    rw [hentries]
    exact .all hnone hparts
  · have hlisted :=
      @ListedOf.kind k (p.entries.map Placement.toJson) hk (by simp [Placement.toJson])
    rw [ofKind_placements, List.length_map] at hlisted
    rw [Partition.entriesOfKind, filter_some_of_ne_empty hk]
    exact hlisted

theorem listUnits_of_read {jobs : Job.Registry} {files : FileTree} {id : String} {job : Job}
    (hjob : jobs.find? id = some job) {dir : Path} (hdir : Path.ofText job.outputDir = dir)
    {p : Partition} (hp : p.IsWritable)
    (hread : files.read (dir.join [Output.sourceMapName])
      = .ok (Utf8.encode p.sourceMap.indented)) (kind : Option String) :
    listUnits jobs files id kind
      = .ok (success [("original_file", .str p.sourceFile),
          ("units_dir", .str (dir.join [Output.unitsName]).toText),
          ("total_units", .nat (p.entriesOfKind kind).length),
          ("units", .arr ((p.entriesOfKind kind).map Placement.toJson))]) := by
  subst hdir
  exact listUnits_of_listedOf hjob kind
    (FileTree.holds_of_read (Partition.plain_sourceMap hp 977) hread) (listedOf_placements p kind)

end Service

namespace Output.Store

/-- Reading the source map after it was written gives what was written. The units of a job with the
same directory are then listed in order, and those of a kind as the sub-list of that kind. -/
theorem loadSourceMap_putText {σ : Type} (calls : Plan.Handler Call σ) {s : Store} {p : Partition}
    (hp : p.IsWritable) {w : Surroundings σ} {files : FileTree}
    (hwrite : w.files.write s.sourceMapPath (Utf8.encode p.sourceMap.indented) = (files, .ok ()))
    (time : Float) :
    Runner.carry calls (Runner.putText s.sourceMapPath p.sourceMap.indented) time w
      = ⟨.done (.ok ⟨⟩), time + 0.0, { w with files }⟩ ∧
    s.loadSourceMap files = .ok p.sourceMap ∧
    ∀ (jobs : Job.Registry) (id : String) (job : Job) (kind : Option String),
      jobs.find? id = some job → Path.ofText job.outputDir = s.dir →
      Service.listUnits jobs files id kind
        = .ok (Service.success [("original_file", .str p.sourceFile),
            ("units_dir", .str s.unitsDir.toText),
            ("total_units", .nat (p.entriesOfKind kind).length),
            ("units", .arr ((p.entriesOfKind kind).map Placement.toJson))]) := by
  have hread := (FileTree.written_of_write hwrite).read
  have hplain : Json.Plain Json.nestingLimit p.sourceMap := Partition.plain_sourceMap hp 977
  refine ⟨Runner.carry_putText_ok hwrite time,
    loadSourceMap_of_holds (FileTree.holds_of_read hplain hread), ?_⟩
  intro jobs id job kind hjob hdir
  exact Service.listUnits_of_read hjob hdir hp hread kind

/-- A partition whose names hold quotes, backslashes, line breaks, control characters and characters
beyond the first plane. -/
def oddlyNamed : Partition :=
  ⟨[], [⟨0, "\"a\\\r\n\x01b\"", .function, "functions/a_b.js", 1, 2, "f"⟩,
    ⟨1, "π😀\uFEFF", .classDecl, "classes/unnamed.js", 3, 3, "g"⟩], 3, "\t\"x\".js", false⟩

theorem loadSourceMap_putText_oddlyNamed :
    let s : Store := ⟨⟨"", ["out"]⟩, false⟩
    let w : Surroundings Unit := ⟨.empty, 0.0, [], [], ()⟩
    let files := (w.files.write s.sourceMapPath (Utf8.encode oddlyNamed.sourceMap.indented)).1
    oddlyNamed.IsWritable ∧ s.loadSourceMap files = .ok oddlyNamed.sourceMap := by
  intro s w files
  have hnumbers : oddlyNamed.IsWritable := by
    rw [Partition.IsWritable]
    decide +kernel
  have hout : ∀ content,
      (FileTree.empty.write ⟨"", ["out", "sourcemap.json"]⟩ content).2 = .ok () := fun _ => by rfl
  have hwrite : w.files.write s.sourceMapPath (Utf8.encode oddlyNamed.sourceMap.indented)
      = (files, .ok ()) :=
    Prod.ext rfl (hout _)
  have hread := loadSourceMap_putText ⟨fun _ w => (none, w), fun _ => 0.0⟩ hnumbers hwrite 0.0
  exact ⟨hnumbers, hread.2.1⟩

end Output.Store

end Dissect
