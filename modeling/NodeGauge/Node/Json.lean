/-
Module: NodeGauge.Node.Json
Purpose: Node records as JSON: the compact text of a record, and the record of a text.
Main exports: Node.Record.toJson, Node.Roster.toJson, Node.Record.ofJson
-/
import NodeGauge.Json.Shape
import NodeGauge.Node.Roster

namespace NodeGauge.Node

open Json (Fault Shape objectText arrayText booleanText)

/-!
Writing puts every field in its own order and no blank anywhere.  Reading accepts the fields in
any order, unknown fields besides, and an array of the contents instead of an object.
-/

/-- The fields of a GPU section. -/
inductive GpuField where
  | gpuType
  | allocatedCount
  | bitmap
deriving Repr, DecidableEq

namespace GpuField

/-- Every field, in order. -/
def all : List GpuField := [gpuType, allocatedCount, bitmap]

/-- The key of a field. -/
def key : GpuField → Text
  | gpuType => "gpu_type".toList
  | allocatedCount => "allocated_count".toList
  | bitmap => "index_allocation".toList

/-- The type of a field's content. -/
abbrev Content : GpuField → Type
  | gpuType => Text
  | allocatedCount => UInt64
  | bitmap => Gres.Bitmap

/-- Read the content of a field. -/
def readContent : (f : GpuField) → Text → Except Fault (f.Content × Text)
  | gpuType => Json.readText
  | allocatedCount => Json.readNatural
  | bitmap => Json.readBooleans

end GpuField

/-- GPU sections as a structure of fields, of which none may be left out. -/
def gpuShape : Shape where
  title := "GpuAllocation".toList
  Field := GpuField
  fields := GpuField.all
  mem_fields f := by cases f <;> decide
  key := GpuField.key
  nodup_keys := by decide
  Content := GpuField.Content
  readContent := GpuField.readContent
  length_of_readContent {f s v rest} h := by
    cases f
    · exact Json.length_of_readText h
    · exact Json.length_of_readNatural h
    · exact Json.length_of_readList Json.length_of_readBoolean h
  default? _ := none

/-- The JSON texts of the fields of a GPU section. -/
def GpuSection.texts (gpu : GpuSection) : GpuField → Text
  | .gpuType => Json.quote gpu.gpuType
  | .allocatedCount => Numeral.write gpu.allocatedCount
  | .bitmap => arrayText (gpu.bitmap.map booleanText)

/-- The JSON text of a GPU section. -/
def GpuSection.toJson (gpu : GpuSection) : Text :=
  objectText (gpuShape.members gpu.texts gpuShape.fields)

/-- The GPU section of some contents. -/
def GpuSection.ofContents (contents : gpuShape.Contents) : GpuSection :=
  ⟨contents GpuField.gpuType, contents GpuField.allocatedCount, contents GpuField.bitmap⟩

/-- Read a GPU section. -/
def GpuSection.readJson (s : Text) : Except Fault (GpuSection × Text) :=
  (gpuShape.read s).map fun (contents, rest) => (.ofContents contents, rest)

/-- Read what a record says of its GPUs: a section, or nothing. -/
def readGpu (s : Text) : Except Fault (Option GpuSection × Text) :=
  match Json.skipBlank s with
  | 'n' :: s => (Json.readWord ['u', 'l', 'l'] s).map fun rest => (none, rest)
  | s => (GpuSection.readJson s).map fun (gpu, rest) => (some gpu, rest)

/-- Reading a GPU section gives nothing back. -/
theorem length_of_readGpu {s rest : Text} {gpu : Option GpuSection}
    (h : readGpu s = .ok (gpu, rest)) : rest.length ≤ s.length := by
  have blank := Json.length_skipBlank_le s
  unfold readGpu at h
  split at h
  · next t front =>
      rw [front] at blank
      cases read : Json.readWord ['u', 'l', 'l'] t with
      | error fault => simp [read, Except.map] at h
      | ok r =>
          simp only [read, Except.map, Except.ok.injEq, Prod.mk.injEq] at h
          have := Json.length_of_readWord read
          rw [← h.2]; simp at blank; omega
  · cases read : gpuShape.read (Json.skipBlank s) with
    | error fault => simp [GpuSection.readJson, read, Except.map] at h
    | ok p =>
        simp only [GpuSection.readJson, read, Except.map, Except.ok.injEq, Prod.mk.injEq] at h
        rw [← h.2]
        exact Nat.le_trans (Nat.le_of_lt (Json.Shape.length_of_read read)) blank

/-- The fields of a record. -/
inductive RecordField where
  | name
  | status
  | cpuAllocated
  | cpuIdle
  | cpuOther
  | cpuTotal
  | memoryAllocated
  | memoryTotal
  | gpu
deriving Repr, DecidableEq

namespace RecordField

/-- Every field, in order. -/
def all : List RecordField :=
  [name, status, cpuAllocated, cpuIdle, cpuOther, cpuTotal, memoryAllocated, memoryTotal, gpu]

/-- The key of a field. -/
def key : RecordField → Text
  | name => "name".toList
  | status => "status".toList
  | cpuAllocated => "cpu_allocated".toList
  | cpuIdle => "cpu_idle".toList
  | cpuOther => "cpu_other".toList
  | cpuTotal => "cpu_total".toList
  | memoryAllocated => "mem_allocated".toList
  | memoryTotal => "mem_total".toList
  | gpu => "gpu".toList

/-- The type of a field's content. -/
abbrev Content : RecordField → Type
  | name | status => Text
  | gpu => Option GpuSection
  | _ => UInt64

/-- Read the content of a field. -/
def readContent : (f : RecordField) → Text → Except Fault (f.Content × Text)
  | name | status => Json.readText
  | gpu => readGpu
  | cpuAllocated | cpuIdle | cpuOther | cpuTotal | memoryAllocated | memoryTotal =>
      Json.readNatural

/-- What stands for a field that is left out: a node that says nothing of GPUs has none. -/
def default? : (f : RecordField) → Option f.Content
  | gpu => some none
  | _ => none

end RecordField

/-- Records as a structure of fields, of which only the GPUs may be left out. -/
def recordShape : Shape where
  title := "NodeRecord".toList
  Field := RecordField
  fields := RecordField.all
  mem_fields f := by cases f <;> decide
  key := RecordField.key
  nodup_keys := by decide
  Content := RecordField.Content
  readContent := RecordField.readContent
  length_of_readContent {f s v rest} h := by
    cases f
    · exact Json.length_of_readText h
    · exact Json.length_of_readText h
    · exact Json.length_of_readNatural h
    · exact Json.length_of_readNatural h
    · exact Json.length_of_readNatural h
    · exact Json.length_of_readNatural h
    · exact Json.length_of_readNatural h
    · exact Json.length_of_readNatural h
    · exact length_of_readGpu h
  default? := RecordField.default?

/-- The JSON text of what a record says of its GPUs. -/
def gpuText : Option GpuSection → Text
  | none => "null".toList
  | some gpu => gpu.toJson

/-- The JSON texts of the fields of a record. -/
def Record.texts (r : Record) : RecordField → Text
  | .name => Json.quote r.name
  | .status => Json.quote r.status
  | .cpuAllocated => Numeral.write r.cpu.allocated
  | .cpuIdle => Numeral.write r.cpu.idle
  | .cpuOther => Numeral.write r.cpu.other
  | .cpuTotal => Numeral.write r.cpu.total
  | .memoryAllocated => Numeral.write r.memory.allocated
  | .memoryTotal => Numeral.write r.memory.total
  | .gpu => gpuText r.gpu

/-- The JSON text of a record. -/
def Record.toJson (r : Record) : Text := objectText (recordShape.members r.texts recordShape.fields)

/-- The JSON text of a roster: an array of its records in their order. -/
def Roster.toJson (roster : Roster) : Text := arrayText (roster.records.map Record.toJson)

/-- The record of some contents. -/
def Record.ofContents (contents : recordShape.Contents) : Record where
  name := contents RecordField.name
  status := contents RecordField.status
  cpu :=
    ⟨contents RecordField.cpuAllocated, contents RecordField.cpuIdle,
     contents RecordField.cpuOther, contents RecordField.cpuTotal⟩
  memory := ⟨contents RecordField.memoryAllocated, contents RecordField.memoryTotal⟩
  gpu := contents RecordField.gpu

/-- Read a record off the front of a text. -/
def Record.readJson (s : Text) : Except Fault (Record × Text) :=
  (recordShape.read s).map fun (contents, rest) => (.ofContents contents, rest)

/-- The record of a text that holds nothing else. -/
def Record.ofJson : Text → Except Fault Record := Json.readWhole Record.readJson

end NodeGauge.Node
