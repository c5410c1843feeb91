/-
Module: NodeGauge.Proofs.Node.Json
Purpose: What is written for a node record is one of its layouts, so node records and rosters are
  read back from their JSON texts.
Main exports: Node.Record.isLaidOut_toJson, Node.Record.ofJson_toJson,
  Node.Record.json_text_determines_record, Node.recordsOfJson, Node.Roster.recordsOfJson_toJson
-/
import NodeGauge.Proofs.Node.Layout
import NodeGauge.Proofs.Node.Roster

namespace NodeGauge.Node

open Json (Fault IsStructure ReadsAnywhere Shape objectText arrayText booleanText member quote)

/-! ### GPU sections -/

theorem isBitmapText_arrayText (bitmap : Gres.Bitmap) :
    IsBitmapText bitmap (arrayText (bitmap.map booleanText)) := by
  refine ⟨_, Json.isArray_arrayText (bitmap.map booleanText), ?_⟩
  rw [List.forall₂_map_left_iff, List.forall₂_map_left_iff, List.forall₂_same]
  exact fun _ _ => rfl

namespace GpuSection

theorem shows_texts (gpu : GpuSection) (f : GpuField) : gpu.Shows f (gpu.texts f) := by
  cases f with
  | gpuType => exact Json.isString_quote gpu.gpuType
  | allocatedCount => rfl
  | bitmap => exact isBitmapText_arrayText gpu.bitmap

theorem isStructure_toJson (gpu : GpuSection) : IsStructure gpu.attributes gpu.toJson := by
  rw [attributes_eq]
  exact Shape.isStructure_members gpu.shows_texts

end GpuSection

theorem isGpuText_gpuText (gpu : Option GpuSection) : IsGpuText gpu (gpuText gpu) := by
  cases gpu with
  | none => rfl
  | some gpu => exact gpu.isStructure_toJson

/-! ### Records -/

namespace Record

theorem shows_texts (r : Record) (f : RecordField) : r.Shows f (r.texts f) := by
  cases f with
  | name => exact Json.isString_quote r.name
  | status => exact Json.isString_quote r.status
  | gpu => exact isGpuText_gpuText r.gpu
  | _ => rfl

theorem isStructure_toJson (r : Record) : IsStructure r.attributes r.toJson := by
  rw [attributes_eq]
  exact Shape.isStructure_members r.shows_texts

/-- What is written for a record is one of its layouts. -/
theorem isLaidOut_toJson (r : Record) : r.IsLaidOut r.toJson := by
  have nothing : Json.IsGap [] := List.forall_mem_nil _
  have laid := IsLaidOut.spaced nothing r.isStructure_toJson nothing
  rwa [List.nil_append, List.append_nil] at laid

/-- A record is read back from its JSON text. -/
theorem readsAnywhere_toJson (r : Record) : ReadsAnywhere readJson r.toJson r :=
  readsAnywhere r.isStructure_toJson

/-- Reading a record takes it away. -/
theorem length_of_readJson {s rest : Text} {r : Record} (read : readJson s = .ok (r, rest)) :
    rest.length < s.length := by
  unfold readJson at read
  cases contents : recordShape.read s with
  | error fault => simp [contents, Except.map] at read
  | ok p =>
      simp only [contents, Except.map, Except.ok.injEq, Prod.mk.injEq] at read
      rw [← read.2]
      exact Shape.length_of_read contents

/-- A record is read from the text that holds it and nothing else. -/
theorem ofJson_toJson (r : Record) : ofJson r.toJson = .ok r :=
  r.readsAnywhere_toJson.readWhole_alone

theorem toJson_injective : Function.Injective toJson := by
  intro r other same
  have read := r.ofJson_toJson
  rw [same, other.ofJson_toJson] at read
  exact (Except.ok.inj read).symm

/-- Every record is written as an object of its nine members, the GPUs as `null` or as an object of
three, and is read back from that text.  So no two records have one text, whatever their texts and
bitmaps hold. -/
theorem json_text_determines_record (r : Record) :
    r.toJson = objectText [
      member "name".toList (quote r.name),
      member "status".toList (quote r.status),
      member "cpu_allocated".toList (Numeral.write r.cpu.allocated),
      member "cpu_idle".toList (Numeral.write r.cpu.idle),
      member "cpu_other".toList (Numeral.write r.cpu.other),
      member "cpu_total".toList (Numeral.write r.cpu.total),
      member "mem_allocated".toList (Numeral.write r.memory.allocated),
      member "mem_total".toList (Numeral.write r.memory.total),
      member "gpu".toList (r.gpu.elim "null".toList fun gpu => objectText [
        member "gpu_type".toList (quote gpu.gpuType),
        member "allocated_count".toList (Numeral.write gpu.allocatedCount),
        member "index_allocation".toList (arrayText (gpu.bitmap.map booleanText))])] ∧
      ofJson r.toJson = .ok r ∧
      ∀ other : Record, r.toJson = other.toJson → r = other := by
  refine ⟨?_, r.ofJson_toJson, fun other same => toJson_injective same⟩
  obtain ⟨name, status, cpu, memory, gpu⟩ := r
  cases gpu with
  | none => rfl
  | some gpu => rfl

end Record

/-! ### Rosters -/

/-- The records of a text that holds an array of them and nothing else. -/
def recordsOfJson : Text → Except Fault (List Record) :=
  Json.readWhole (Json.readList Record.readJson Record.length_of_readJson)

namespace Roster

/-- The records of a roster are read back from its JSON text, in their order. -/
theorem recordsOfJson_toJson (roster : Roster) :
    recordsOfJson roster.toJson = .ok roster.records := by
  apply ReadsAnywhere.readWhole_alone
  apply Json.readsAnywhere_arrayText
  intro r _
  exact r.readsAnywhere_toJson

/-- The records of a roster make up that roster. -/
theorem ofList_records (roster : Roster) : ofList roster.records = roster :=
  eq_of_find?_eq fun name => find?_ofList roster.records name

end Roster

end NodeGauge.Node
