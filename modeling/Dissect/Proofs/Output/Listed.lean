import Dissect.Proofs.Output.SourceMap
import Dissect.Proofs.Output.UnitFiles

namespace Dissect

theorem UnitKind.text_injective : Function.Injective UnitKind.text := by
  intro k k' h
  cases k <;> cases k' <;> first | rfl | exact absurd h (by decide)

theorem UnitKind.directory_injective : Function.Injective UnitKind.directory := by
  intro k k' h
  cases k <;> cases k' <;> first | rfl | exact absurd h (by decide)

def Placement.fileName (e : Placement) : String := (Path.ofText e.file).name

namespace Partition

/-- The partition lists a file, by the names that lead to it in the directory for units. -/
def Lists (part : Partition) (names : List String) : Prop :=
  ∃ e ∈ part.entries, Path.namesOf e.file.toList = names

def fileNames (part : Partition) (k : UnitKind) : List String :=
  (part.entriesOfKind (some k.text)).map Placement.fileName

theorem entriesOfKind_text (part : Partition) (k : UnitKind) :
    part.entriesOfKind (some k.text) = part.entries.filter (·.kind.text == k.text) := by
  have hgiven : (some k.text).filter (!·.isEmpty) = some k.text := by
    cases k <;> rfl
  rw [entriesOfKind, hgiven]

theorem mem_entriesOfKind_iff {part : Partition} {k : UnitKind} {e : Placement} :
    e ∈ part.entriesOfKind (some k.text) ↔ e ∈ part.entries ∧ e.kind = k := by
  rw [entriesOfKind_text, List.mem_filter, beq_iff_eq, UnitKind.text_injective.eq_iff]

end Partition

namespace Output.InStep

variable {part : Partition}

theorem isFileOf_kind (h : InStep part.units part.entries) {e : Placement}
    (he : e ∈ part.entries) : Partition.IsFileOf e.kind e.file := by
  rw [← h.map_snd_zip] at he
  obtain ⟨ue, hue, rfl⟩ := List.mem_map.mp he
  have hkind : ue.2.kind = ue.1.kind := by
    rw [((List.forall₂_iff_zip.mp h.entry).2 hue).1]
    rfl
  rw [hkind]
  exact h.isFileOf hue

theorem namesOf_file (h : InStep part.units part.entries) {e : Placement} (he : e ∈ part.entries) :
    Path.namesOf e.file.toList = [e.kind.directory, e.fileName] ∧ e.fileName.endsWith ".js" := by
  obtain ⟨stem, -, hnames⟩ := Partition.exists_namesOf (h.isFileOf_kind he)
  have hname : e.fileName = stem ++ ".js" := by
    rw [Placement.fileName, Path.ofText, hnames]
    rfl
  rw [hname, String.endsWith_eq_endsWith_toSlice, String.Slice.endsWith_string_iff]
  exact ⟨hnames, by simp⟩

theorem lists_iff (h : InStep part.units part.entries) {k : UnitKind} {name : String} :
    part.Lists [k.directory, name] ↔ name ∈ part.fileNames k := by
  rw [Partition.fileNames, List.mem_map]
  constructor
  · rintro ⟨e, he, hnames⟩
    rw [(h.namesOf_file he).1, List.cons.injEq, List.cons.injEq] at hnames
    obtain ⟨hkind, hname, -⟩ := hnames
    have hk := UnitKind.directory_injective hkind
    exact ⟨e, Partition.mem_entriesOfKind_iff.mpr ⟨he, hk⟩, hname⟩
  · rintro ⟨e, hkind, rfl⟩
    obtain ⟨he, rfl⟩ := Partition.mem_entriesOfKind_iff.mp hkind
    exact ⟨e, he, (h.namesOf_file he).1⟩

theorem endsWith_of_lists (h : InStep part.units part.entries) {k : UnitKind} {name : String}
    (hlists : part.Lists [k.directory, name]) : name.endsWith ".js" := by
  rw [h.lists_iff, Partition.fileNames, List.mem_map] at hlists
  obtain ⟨e, he, rfl⟩ := hlists
  exact (h.namesOf_file (Partition.mem_entriesOfKind_iff.mp he).1).2

theorem nodup_fileNames (h : InStep part.units part.entries) (k : UnitKind) :
    (part.fileNames k).Nodup := by
  have hentries : (part.entriesOfKind (some k.text)).Nodup := by
    rw [Partition.entriesOfKind_text]
    exact (List.Nodup.of_map _ h.files).filter _
  refine hentries.map_on ?_
  intro e hkind e' hkind' hname
  obtain ⟨he, rfl⟩ := Partition.mem_entriesOfKind_iff.mp hkind
  obtain ⟨he', hsame⟩ := Partition.mem_entriesOfKind_iff.mp hkind'
  have hnames : Path.namesOf e.file.toList = Path.namesOf e'.file.toList := by
    rw [(h.namesOf_file he).1, (h.namesOf_file he').1, hsame, hname]
  refine List.inj_on_of_nodup_map h.files he he' ?_
  exact file_eq_of_namesOf (h.isFileOf_kind he) (h.isFileOf_kind he') hnames

end Output.InStep

end Dissect
