/-
Module: NodeGauge.Proofs.Node.Layout
Purpose: The layout of a JSON text says nothing of the record in it: members in any order and among
  others, arrays in their place, blanks and spellings all give the same record.
Main exports: Node.GpuSection.attributes, Node.Record.attributes, Node.Record.IsLaidOut,
  Node.Record.ofJson_whatever_layout
-/
import NodeGauge.Node.Json
import NodeGauge.Proofs.Json.Structure

namespace NodeGauge.Node

open Json (Attribute Entry IsArray IsCodeUnit IsDigits IsGap IsLooseString IsMember IsNumber
  IsObject IsString IsStructure IsValue Item Reads ReadsAnywhere Shape arrayText booleanText
  objectText quote)

/-! ### GPU sections -/

/-- The texts of a bitmap: arrays of its truth values. -/
def IsBitmapText (bitmap : Gres.Bitmap) (s : Text) : Prop :=
  ∃ items, IsArray items s ∧ List.Forall₂ (fun item b => item.value = booleanText b) items bitmap

theorem IsBitmapText.readsAnywhere {bitmap : Gres.Bitmap} {s : Text}
    (shown : IsBitmapText bitmap s) : ReadsAnywhere Json.readBooleans s bitmap := by
  obtain ⟨items, array, values⟩ := shown
  refine array.readsAnywhere Json.length_of_readBoolean (values.imp fun item b same => ?_)
  rw [same]
  exact Json.readsAnywhere_booleanText b

namespace GpuSection

/-- What the fields of a GPU section hold. -/
def contents (gpu : GpuSection) : (f : GpuField) → f.Content
  | .gpuType => gpu.gpuType
  | .allocatedCount => gpu.allocatedCount
  | .bitmap => gpu.bitmap

/-- The values that stand for what the fields of a GPU section hold. -/
def Shows (gpu : GpuSection) : GpuField → Text → Prop
  | .gpuType, s => IsString s gpu.gpuType
  | .allocatedCount, s => s = Numeral.write gpu.allocatedCount
  | .bitmap, s => IsBitmapText gpu.bitmap s

/-- What a GPU section holds under its keys. -/
def attributes (gpu : GpuSection) : List Attribute := [
  ⟨"gpu_type".toList, gpu.Shows .gpuType, False⟩,
  ⟨"allocated_count".toList, gpu.Shows .allocatedCount, False⟩,
  ⟨"index_allocation".toList, gpu.Shows .bitmap, False⟩]

variable {gpu : GpuSection} {s : Text}

theorem readsAnywhere_shown {f : GpuField} (shown : gpu.Shows f s) :
    ReadsAnywhere (gpuShape.readContent f) s (gpu.contents f) := by
  cases f with
  | gpuType => exact IsString.readsAnywhere shown
  | allocatedCount =>
      subst shown
      exact Json.readsAnywhere_write gpu.allocatedCount
  | bitmap => exact IsBitmapText.readsAnywhere shown

theorem attributes_eq (gpu : GpuSection) :
    gpu.attributes = gpuShape.attributes gpu.contents gpu.Shows := by
  have lacks (f : GpuField) : False ↔ gpuShape.default? f = some (gpu.contents f) :=
    ⟨False.elim, fun same => Option.some_ne_none _ same.symm⟩
  calc gpu.attributes
    _ = GpuField.all.map fun f => ⟨f.key, gpu.Shows f, False⟩ := rfl
    _ = gpuShape.attributes gpu.contents gpu.Shows :=
        List.map_congr_left fun f _ => congrArg _ (propext (lacks f))

/-- A GPU section is read from every text of it. -/
theorem readsAnywhere (structured : IsStructure gpu.attributes s) :
    ReadsAnywhere readJson s gpu := by
  rw [attributes_eq] at structured
  exact (Shape.readsAnywhere (fun _ _ => readsAnywhere_shown) structured).map ofContents

end GpuSection

/-- The texts of what a record says of its GPUs. -/
def IsGpuText : Option GpuSection → Text → Prop
  | none, s => s = "null".toList
  | some gpu, s => IsStructure gpu.attributes s

theorem readGpu_gap (gap s : Text) (blank : IsGap gap) : readGpu (gap ++ s) = readGpu s := by
  rw [readGpu, readGpu, Json.skipBlank_gap blank]

/-- What a record says of its GPUs is read from every text of it: a section opens a bracket, and so
is not taken for the word that says there is none. -/
theorem IsGpuText.readsAnywhere {gpu : Option GpuSection} {s : Text} (shown : IsGpuText gpu s) :
    ReadsAnywhere readGpu s gpu := by
  cases gpu with
  | none =>
      subst shown
      refine Reads.anywhere ?_ ⟨'n', _, rfl, by decide, by decide⟩ readGpu_gap
      intro rest _
      have word := Json.readWord_append ['u', 'l', 'l'] rest
      exact congrArg (Except.map fun rest => (none, rest)) word
  | some gpu =>
      have reads := GpuSection.readsAnywhere shown
      refine Reads.anywhere ?_ reads.starts readGpu_gap
      intro rest ends
      have read := congrArg (Except.map (Prod.map some id)) (reads.toReads rest ends)
      obtain ⟨tail, rfl | rfl⟩ := shown.exists_cons
      · exact read
      · exact read

/-! ### Records -/

namespace Record

/-- What the fields of a record hold. -/
def contents (r : Record) : (f : RecordField) → f.Content
  | .name => r.name
  | .status => r.status
  | .cpuAllocated => r.cpu.allocated
  | .cpuIdle => r.cpu.idle
  | .cpuOther => r.cpu.other
  | .cpuTotal => r.cpu.total
  | .memoryAllocated => r.memory.allocated
  | .memoryTotal => r.memory.total
  | .gpu => r.gpu

/-- The values that stand for what the fields of a record hold. -/
def Shows (r : Record) : RecordField → Text → Prop
  | .name, s => IsString s r.name
  | .status, s => IsString s r.status
  | .cpuAllocated, s => s = Numeral.write r.cpu.allocated
  | .cpuIdle, s => s = Numeral.write r.cpu.idle
  | .cpuOther, s => s = Numeral.write r.cpu.other
  | .cpuTotal, s => s = Numeral.write r.cpu.total
  | .memoryAllocated, s => s = Numeral.write r.memory.allocated
  | .memoryTotal, s => s = Numeral.write r.memory.total
  | .gpu, s => IsGpuText r.gpu s

/-- Whether a text may leave a field out: only the GPUs, and a text that does so says that there are
none. -/
def MayLack (r : Record) : RecordField → Prop
  | .gpu => r.gpu = none
  | _ => False

/-- What a record holds under its keys. -/
def attributes (r : Record) : List Attribute := [
  ⟨"name".toList, r.Shows .name, r.MayLack .name⟩,
  ⟨"status".toList, r.Shows .status, r.MayLack .status⟩,
  ⟨"cpu_allocated".toList, r.Shows .cpuAllocated, r.MayLack .cpuAllocated⟩,
  ⟨"cpu_idle".toList, r.Shows .cpuIdle, r.MayLack .cpuIdle⟩,
  ⟨"cpu_other".toList, r.Shows .cpuOther, r.MayLack .cpuOther⟩,
  ⟨"cpu_total".toList, r.Shows .cpuTotal, r.MayLack .cpuTotal⟩,
  ⟨"mem_allocated".toList, r.Shows .memoryAllocated, r.MayLack .memoryAllocated⟩,
  ⟨"mem_total".toList, r.Shows .memoryTotal, r.MayLack .memoryTotal⟩,
  ⟨"gpu".toList, r.Shows .gpu, r.MayLack .gpu⟩]

/-- The texts that lay a record out: an object with a member for each of its fields, in any order
and among any others, or an array of the contents in their order, with blanks around it. -/
inductive IsLaidOut (r : Record) : Text → Prop where
  | spaced {front s back : Text} (before : IsGap front) (structured : IsStructure r.attributes s)
      (behind : IsGap back) : IsLaidOut r (front ++ s ++ back)

variable {r : Record} {s : Text}

theorem readsAnywhere_shown {f : RecordField} (shown : r.Shows f s) :
    ReadsAnywhere (recordShape.readContent f) s (r.contents f) := by
  cases f with
  | name => exact IsString.readsAnywhere shown
  | status => exact IsString.readsAnywhere shown
  | gpu => exact IsGpuText.readsAnywhere shown
  | _ =>
      subst shown
      exact Json.readsAnywhere_write _

theorem attributes_eq (r : Record) :
    r.attributes = recordShape.attributes r.contents r.Shows := by
  have lacks (f : RecordField) :
      r.MayLack f ↔ recordShape.default? f = some (r.contents f) := by
    cases f with
    | gpu => exact ⟨fun none => congrArg some none.symm, fun same => (Option.some.inj same).symm⟩
    | _ => exact ⟨False.elim, fun same => Option.some_ne_none _ same.symm⟩
  calc r.attributes
    _ = RecordField.all.map fun f => ⟨f.key, r.Shows f, r.MayLack f⟩ := rfl
    _ = recordShape.attributes r.contents r.Shows :=
        List.map_congr_left fun f _ => congrArg _ (propext (lacks f))

/-- A record is read from every text of it. -/
theorem readsAnywhere (structured : IsStructure r.attributes s) : ReadsAnywhere readJson s r := by
  rw [attributes_eq] at structured
  exact (Shape.readsAnywhere (fun _ _ => readsAnywhere_shown) structured).map ofContents

/-- Every text that lays a record out is read as that record. -/
theorem ofJson_whatever_layout (laid : r.IsLaidOut s) : ofJson s = .ok r := by
  cases laid with
  | spaced before structured behind => exact (readsAnywhere structured).readWhole before behind

/-- Members in another order, a key that is spelled with an escape, GPUs as an array, and a member
besides whose value has brackets, a key of a record and half a surrogate pair in it. -/
theorem ofJson_whatever_layout_shuffled :
    let r : Record := ⟨"n1".toList, "idle".toList, ⟨1, 2, 0, 3⟩, ⟨4, 8⟩,
      some ⟨"a100".toList, 2, [true, false]⟩⟩
    let s : Text := ("\n\x7b \"gpu\" :[\"a100\" , 2,\t[true,false ] ],".toList ++
      "\"more\":[\"\x7d\\ud800\", \x7b\"name\":-0.5E+3\x7d] ,\"mem_total\":8,".toList ++
      "\"n\\u0061me\":\"n1\",\"status\":\"idle\",\"cpu_allocated\":1,\"cpu_idle\":2,".toList ++
      "\"cpu_other\":0,\"cpu_total\":3,\"mem_allocated\":4\x7d\t ".toList)
    r.IsLaidOut s ∧ ofJson s = .ok r := by
  intro r s
  have string := Json.isString_quote
  let gpuItems : List Item := [⟨[], quote "a100".toList, [' ']⟩, ⟨[' '], Numeral.write 2, []⟩,
    ⟨['\t'], "[true,false ]".toList, [' ']⟩]
  have bitmap : IsBitmapText [true, false] "[true,false ]".toList := by
    let items : List Item := [⟨[], booleanText true, []⟩, ⟨[], booleanText false, [' ']⟩]
    have array : IsArray items (arrayText (items.map Item.text)) :=
      .items (List.cons_ne_nil _ _) (by decide)
    exact ⟨items, array, .cons rfl (.cons rfl .nil)⟩
  have gpu : r.Shows .gpu (arrayText (gpuItems.map Item.text)) := by
    have array : IsArray gpuItems (arrayText (gpuItems.map Item.text)) :=
      .items (List.cons_ne_nil _ _) (by decide)
    exact .array array (.cons (string _) (.cons rfl (.cons bitmap .nil))) rfl
      (List.forall_mem_nil _)
  let moreItems : List Item := [⟨[], "\"\x7d\\ud800\"".toList, []⟩,
    ⟨[' '], objectText ([Entry.compact "name".toList "-0.5E+3".toList].map Entry.text), []⟩]
  have lone : IsLooseString "\"\x7d\\ud800\"".toList := by
    have unit : IsCodeUnit "d800".toList 0xd800 :=
      .digits (i := 13) (j := 8) (k := 0) (l := 0) (.inl rfl) (.inl rfl) (.inl rfl) (.inl rfl)
    refine ⟨[['\x7d'], "\\ud800".toList], ?_, rfl⟩
    exact List.forall_mem_cons.2 ⟨.spelled (Json.spells_escaped '\x7d'),
      List.forall_mem_singleton.2 (.unit unit)⟩
  have number : IsNumber "-0.5E+3".toList := by
    have digit (c : Char) (d : '0' ≤ c ∧ c ≤ '9') : IsDigits [c] :=
      ⟨List.cons_ne_nil _ _, List.forall_mem_singleton.2 d⟩
    exact .parts (.inr rfl) .zero (.some (digit '5' (by decide)))
      (.some (.inr rfl) (.inr (.inl rfl)) (digit '3' (by decide)))
  have more : IsValue (arrayText (moreItems.map Item.text)) := by
    have inner : IsValue
        (objectText ([Entry.compact "name".toList "-0.5E+3".toList].map Entry.text)) :=
      .object (.entries (List.cons_ne_nil _ _) (by decide))
        (List.forall_mem_singleton.2 (string _).isLooseString)
        (List.forall_mem_singleton.2 (.number number))
    exact .array (.items (List.cons_ne_nil _ _) (by decide))
      (List.forall_mem_cons.2 ⟨.string lone, List.forall_mem_singleton.2 inner⟩)
  have name : IsString "\"n\\u0061me\"".toList "name".toList := by
    have unit : IsCodeUnit "0061".toList 'a'.toNat :=
      .digits (i := 0) (j := 0) (k := 6) (l := 1) (.inl rfl) (.inl rfl) (.inl rfl) (.inl rfl)
    exact ⟨[['n'], "\\u0061".toList, ['m'], ['e']], .cons (Json.spells_escaped 'n')
      (.cons (.unit unit) (.cons (Json.spells_escaped 'm')
        (.cons (Json.spells_escaped 'e') .nil))), rfl⟩
  let entries : List Entry := [
    ⟨[' '], quote "gpu".toList, [' '], ⟨[], arrayText (gpuItems.map Item.text), []⟩⟩,
    ⟨[], quote "more".toList, [], ⟨[], arrayText (moreItems.map Item.text), [' ']⟩⟩,
    .compact "mem_total".toList (Numeral.write 8),
    ⟨[], "\"n\\u0061me\"".toList, [], ⟨[], quote "n1".toList, []⟩⟩,
    .compact "status".toList (quote "idle".toList),
    .compact "cpu_allocated".toList (Numeral.write 1),
    .compact "cpu_idle".toList (Numeral.write 2),
    .compact "cpu_other".toList (Numeral.write 0),
    .compact "cpu_total".toList (Numeral.write 3),
    .compact "mem_allocated".toList (Numeral.write 4)]
  let names : List Text := ["gpu".toList, "more".toList, "mem_total".toList, "name".toList,
    "status".toList, "cpu_allocated".toList, "cpu_idle".toList, "cpu_other".toList,
    "cpu_total".toList, "mem_allocated".toList]
  have known {entry : Entry} (f : RecordField) (key : IsString entry.key f.key)
      (shown : r.Shows f entry.item.value) : IsMember r.attributes entry f.key := by
    rw [attributes_eq]
    exact Shape.isMember_field key shown
  have compact (f : RecordField) {value : Text} (shown : r.Shows f value) :
      IsMember r.attributes (.compact f.key value) f.key := known f (string _) shown
  have members : List.Forall₂ (IsMember r.attributes) entries names :=
    .cons (known .gpu (string _) gpu) <|
    .cons (.extra (string _) (by decide +kernel) more) <|
    .cons (compact .memoryTotal rfl) <|
    .cons (known .name name (string _)) <|
    .cons (compact .status (string _)) <|
    .cons (compact .cpuAllocated rfl) <|
    .cons (compact .cpuIdle rfl) <|
    .cons (compact .cpuOther rfl) <|
    .cons (compact .cpuTotal rfl) <|
    .cons (compact .memoryAllocated rfl) .nil
  have all : ∀ a ∈ r.attributes, a.key ∈ names := by decide +kernel
  have object : IsObject entries (objectText (entries.map Entry.text)) :=
    .entries (List.cons_ne_nil _ _) (by decide)
  have text : s = ['\n'] ++ objectText (entries.map Entry.text) ++ ['\t', ' '] := by
    decide +kernel
  have laid : r.IsLaidOut s := by
    rw [text]
    exact .spaced (by decide)
      (.object object members (by decide +kernel) fun a member => .inl (all a member)) (by decide)
  exact ⟨laid, ofJson_whatever_layout laid⟩

end Record

end NodeGauge.Node
