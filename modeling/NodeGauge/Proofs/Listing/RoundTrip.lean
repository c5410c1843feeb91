/-
Module: NodeGauge.Proofs.Listing.RoundTrip
Purpose: Rosters written as listings and read back.  Every well-formed record comes back from its
  row, rows may stand in any order, and surveys hold well-formed records only.
Main exports: Node.Record.WellFormed, Node.Record.row, Listing.write, Listing.readLine_row,
  Listing.wellFormed_of_readLine, Listing.survey_inverts_write
-/
import NodeGauge.Proofs.Listing.Account
import NodeGauge.Proofs.Listing.Checks
import NodeGauge.Proofs.Text.Utf8

namespace NodeGauge.Node

open Gres (Descriptor deviceLimit)
open Text (IsWord NoBlank)

/-! ### Records that a listing can hold -/

/-- A GPU section that a row can hold: its type is a word without the marks of descriptors, and
there are not too many devices. -/
structure GpuSection.WellFormed (gpu : GpuSection) : Prop where
  gpuType : IsWord gpu.gpuType
  noColon : ':' ∉ gpu.gpuType
  noGroup : '(' ∉ gpu.gpuType
  devices : gpu.total ≤ 65535

instance (gpu : GpuSection) : Decidable gpu.WellFormed :=
  decidable_of_iff
    (IsWord gpu.gpuType ∧ ':' ∉ gpu.gpuType ∧ '(' ∉ gpu.gpuType ∧ gpu.total ≤ 65535)
    ⟨fun ⟨gpuType, noColon, noGroup, devices⟩ => ⟨gpuType, noColon, noGroup, devices⟩,
     fun ⟨gpuType, noColon, noGroup, devices⟩ => ⟨gpuType, noColon, noGroup, devices⟩⟩

/-- A record that a row can hold.  Its numbers fit in 64 bits by their type. -/
structure Record.WellFormed (r : Record) : Prop where
  name : IsWord r.name
  status : IsWord r.status
  gpu : ∀ gpu, r.gpu = some gpu → gpu.WellFormed

instance (r : Record) : Decidable r.WellFormed :=
  decidable_of_iff (IsWord r.name ∧ IsWord r.status ∧ ∀ gpu ∈ r.gpu, gpu.WellFormed)
    ⟨fun ⟨name, status, gpu⟩ => ⟨name, status, gpu⟩, fun ⟨name, status, gpu⟩ => ⟨name, status, gpu⟩⟩

/-! ### Rows -/

/-- The processor column: allocated, idle, other and total with slashes between. -/
def CpuCounts.column (cpu : CpuCounts) : Text :=
  ['/'].intercalate
    [Numeral.write cpu.allocated, Numeral.write cpu.idle, Numeral.write cpu.other,
     Numeral.write cpu.total]

/-- The descriptor of all GPUs of a node. -/
def GpuSection.all (gpu : GpuSection) : Descriptor := ⟨gpu.gpuType, UInt64.ofNat gpu.total, none⟩

/-- The descriptor of the GPUs in use, with the list of their indices. -/
def GpuSection.used (gpu : GpuSection) : Descriptor :=
  ⟨gpu.gpuType, gpu.allocatedCount,
   some ("IDX:".toList ++ Gres.writeIndexList gpu.allocatedIndices)⟩

/-- The two resource columns. -/
def resourceColumns : Option GpuSection → List Text
  | none => [Gres.noResource, Gres.noResource]
  | some gpu => [gpu.all.write, gpu.used.write]

/-- The columns of a record in their order. -/
def Record.columns (r : Record) : List Text :=
  [r.name, Numeral.write r.memory.allocated, Numeral.write r.memory.total, r.cpu.column,
   r.status] ++ resourceColumns r.gpu

/-- The row of a record: its columns with single spaces between. -/
def Record.row (r : Record) : Text := [' '].intercalate r.columns

/-! ### Columns are words -/

theorem noBlank_write (n : UInt64) : NoBlank (Numeral.write n) := (Numeral.isWord_ofNat _).noBlank

theorem CpuCounts.isWord_column (cpu : CpuCounts) : IsWord cpu.column := by
  constructor
  · simp [column, Numeral.write, Numeral.ofNat_ne_nil]
  · apply Text.noBlank_intercalate (by decide)
    simp [noBlank_write]

theorem noBlank_writeIndexList (indices : List Nat) : NoBlank (Gres.writeIndexList indices) := by
  cases indices with
  | nil => simp [Gres.writeIndexList, Gres.noIndices, Text.isBlank]
  | cons index indices =>
      apply Text.noBlank_intercalate (by decide)
      intro numeral member
      obtain ⟨n, _, rfl⟩ := List.mem_map.1 member
      exact (Numeral.isWord_ofNat n).noBlank

theorem isWord_write {d : Descriptor} (typeNoBlank : NoBlank d.gpuType)
    (groupNoBlank : ∀ group, d.group = some group → NoBlank group) : IsWord d.write := by
  constructor
  · simp [Descriptor.write]
  · have group : NoBlank (Descriptor.writeGroup d.group) := by
      cases inner : d.group with
      | none => exact Text.noBlank_nil
      | some text => simp [Descriptor.writeGroup, groupNoBlank text inner, Text.isBlank]
    simp [Descriptor.write, typeNoBlank, group, noBlank_write, Text.isBlank]

theorem isWord_of_mem_resourceColumns {gpu : Option GpuSection}
    (wellFormed : ∀ g, gpu = some g → g.WellFormed) :
    ∀ column ∈ resourceColumns gpu, IsWord column := by
  cases gpu with
  | none =>
      have word : IsWord Gres.noResource := by
        constructor <;> simp [Gres.noResource, Text.isBlank]
      simp [resourceColumns, word]
  | some g =>
      have typeNoBlank := (wellFormed g rfl).gpuType.noBlank
      have all : IsWord g.all.write := by
        apply isWord_write typeNoBlank
        intro group absent
        cases absent
      have used : IsWord g.used.write := by
        apply isWord_write typeNoBlank
        intro group present
        obtain rfl := Option.some.inj present
        simp [noBlank_writeIndexList, Text.isBlank]
      simp [resourceColumns, all, used]

theorem Record.WellFormed.isWord_of_mem_columns {r : Record} (wellFormed : r.WellFormed) :
    ∀ column ∈ r.columns, IsWord column := by
  intro column member
  rcases List.mem_append.1 member with fixed | resource
  · have allocated := Numeral.isWord_ofNat r.memory.allocated.toNat
    have total := Numeral.isWord_ofNat r.memory.total.toNat
    simp only [List.mem_cons, List.not_mem_nil, or_false] at fixed
    rcases fixed with rfl | rfl | rfl | rfl | rfl
    · exact wellFormed.name
    · exact allocated
    · exact total
    · exact r.cpu.isWord_column
    · exact wellFormed.status
  · exact isWord_of_mem_resourceColumns wellFormed.gpu column resource

/-! ### Rows are lines -/

section row

variable {r : Record} (wellFormed : r.WellFormed)
include wellFormed

theorem Record.WellFormed.noFeed_row : '\n' ∉ r.row := by
  intro feed
  rcases Text.mem_of_mem_intercalate feed with same | ⟨column, member, inside⟩
  · exact absurd same (by decide)
  · exact Text.not_mem_of_noBlank (wellFormed.isWord_of_mem_columns column member).noBlank
      (by decide) inside

theorem Record.WellFormed.words_row : Text.words r.row = r.columns :=
  Text.words_intercalate wellFormed.isWord_of_mem_columns

theorem Record.WellFormed.trim_row : Text.trim r.row = r.row :=
  Text.trim_intercalate wellFormed.isWord_of_mem_columns

theorem Record.WellFormed.row_ne_nil : r.row ≠ [] := by
  intro empty
  have words := wellFormed.words_row
  rw [empty] at words
  simp [Text.words, Record.columns] at words

end row

end NodeGauge.Node

namespace NodeGauge.Listing

open Gres (Descriptor)
open Node (CpuCounts GpuSection Record Roster)

/-! ### Rows read back -/

theorem readNumber_write (field : NumberField) (n : UInt64) :
    Row.readNumber field (Numeral.write n) = .ok n := by
  rw [Row.readNumber, Numeral.read?_write]

theorem readCpu_column (cpu : CpuCounts) : Row.readCpu cpu.column = .ok cpu := by
  have noSlash (n : UInt64) : '/' ∉ Numeral.write n := Numeral.not_mem_ofNat (by decide) _
  have parts : cpu.column.splitOn '/' =
      [Numeral.write cpu.allocated, Numeral.write cpu.idle, Numeral.write cpu.other,
       Numeral.write cpu.total] := by
    apply List.splitOn_intercalate
    · simp [noSlash]
    · simp
  rw [Row.readCpu, parts]
  simp [readNumber_write, bind, Except.bind, pure, Except.pure]

/-- A GPU is in use when its index is listed. -/
theorem mem_allocatedIndices {gpu : GpuSection} {index : Nat} :
    index ∈ gpu.allocatedIndices ↔ gpu.bitmap[index]? = some true := by
  simp [GpuSection.allocatedIndices, List.mem_zipIdx_iff_getElem?]

theorem lt_total_of_mem_allocatedIndices {gpu : GpuSection} {index : Nat}
    (member : index ∈ gpu.allocatedIndices) : index < gpu.total := by
  obtain ⟨below, _⟩ := List.getElem?_eq_some_iff.1 (mem_allocatedIndices.1 member)
  exact below

/-- The bitmap of the listed devices is the bitmap they were listed from. -/
theorem bitmapOf_allocatedIndices {gpu : GpuSection} (few : gpu.total < UInt64.size) :
    Gres.bitmapOf gpu.total (gpu.allocatedIndices.map Gres.Span.single) = gpu.bitmap := by
  have covers (index : Nat) :
      (gpu.allocatedIndices.map Gres.Span.single).any (·.covers index) = true ↔
        gpu.bitmap[index]? = some true := by
    rw [List.any_map, List.any_eq_true, ← mem_allocatedIndices]
    constructor
    · rintro ⟨other, member, covered⟩
      have fits := Nat.lt_trans (lt_total_of_mem_allocatedIndices member) few
      exact (Gres.Span.covers_single fits index).1 covered ▸ member
    · intro member
      have fits := Nat.lt_trans (lt_total_of_mem_allocatedIndices member) few
      exact ⟨index, member, (Gres.Span.covers_single fits index).2 rfl⟩
  apply List.ext_getElem (Gres.length_bitmapOf _ _)
  intro index inBitmapOf inBitmap
  have flag := covers index
  have read := Gres.getElem?_bitmapOf inBitmap (gpu.allocatedIndices.map Gres.Span.single)
  rw [List.getElem?_eq_getElem inBitmapOf, Option.some.injEq] at read
  rw [List.getElem?_eq_getElem inBitmap, Option.some.injEq, ← read] at flag
  exact Bool.eq_iff_iff.2 flag

theorem readGpu_columns {gpu : GpuSection} (wellFormed : gpu.WellFormed) :
    Row.readGpu gpu.all.write gpu.used.write = .ok gpu := by
  have few : gpu.total < UInt64.size := Nat.lt_of_le_of_lt wellFormed.devices (by decide)
  have devices : (UInt64.ofNat gpu.total).toNat = gpu.total := UInt64.toNat_ofNat_of_lt' few
  have notMany : UInt64.ofNat gpu.total ≤ Gres.deviceLimit := by
    rw [UInt64.le_iff_toNat_le, devices]
    exact wellFormed.devices
  have all : Descriptor.read gpu.all.write = .ok gpu.all :=
    Descriptor.read_write ⟨wellFormed.gpuType.ne_nil, wellFormed.noColon, wellFormed.noGroup⟩
  have used : Descriptor.read gpu.used.write = .ok gpu.used :=
    Descriptor.read_write ⟨wellFormed.gpuType.ne_nil, wellFormed.noColon, wellFormed.noGroup⟩
  have list : gpu.used.indexList? = some (Gres.writeIndexList gpu.allocatedIndices) := by
    simp [Descriptor.indexList?, GpuSection.used]
  have bitmap : Gres.readIndexList (Gres.writeIndexList gpu.allocatedIndices) gpu.all.count =
      .ok gpu.bitmap := by
    rw [GpuSection.all, Gres.readIndexList_writeIndexList notMany, devices,
      bitmapOf_allocatedIndices few]
    intro index member
    rw [devices]
    exact lt_total_of_mem_allocatedIndices member
  rw [Row.readGpu, all, used]
  simp only [bind, Except.bind, list, bitmap]
  rfl

theorem readResources_columns {gpu : GpuSection} (wellFormed : gpu.WellFormed) :
    Row.readResources gpu.all.write gpu.used.write = .ok (some gpu) := by
  have gpuColumn : gpu.all.write ≠ Gres.noResource := by
    simp [Descriptor.write, Gres.noResource]
  rw [Row.readResources, if_neg gpuColumn, readGpu_columns wellFormed]

/-- Every well-formed record is read from its row. -/
theorem readLine_row {r : Record} (wellFormed : r.WellFormed) : readLine r.row = .ok r := by
  obtain ⟨name, status, cpu, memory, gpu⟩ := r
  have words := wellFormed.words_row
  cases gpu with
  | none =>
      have none : Row.readResources Gres.noResource Gres.noResource = .ok none := by
        rw [Row.readResources, if_pos rfl]
      simp only [readLine, Row.ofLine, words, Record.columns, Node.resourceColumns,
        List.cons_append, List.nil_append, Row.decode, bind, Except.bind, readCpu_column,
        readNumber_write, none]
      rfl
  | some g =>
      have resources := readResources_columns (wellFormed.gpu g rfl)
      simp only [readLine, Row.ofLine, words, Record.columns, Node.resourceColumns,
        List.cons_append, List.nil_append, Row.decode, bind, Except.bind, readCpu_column,
        readNumber_write, resources]
      rfl

/-! ### What was read is well formed -/

theorem wellFormed_of_givesGpu {row : Row} {gpu : GpuSection} (column : Text.IsWord row.gresUsed)
    (gives : row.GivesGpu (some gpu)) : gpu.WellFormed := by
  cases gives with
  | @some _ used _ _ lists few expands =>
      obtain ⟨count, shape, _⟩ := lists.describesUsed
      have typeNoBlank : Text.NoBlank used.gpuType := by
        have noBlank := column.noBlank
        rw [shape.whole] at noBlank
        simp only [Text.noBlank_append] at noBlank
        exact noBlank.1.1.2
      exact
        { gpuType := ⟨shape.typed, typeNoBlank⟩
          noColon := shape.typeNoColon
          noGroup := shape.typeNoGroup
          devices := by
            rw [GpuSection.total, expands.length]
            exact few }

theorem words_of_ofLine {line : Text} {row : Row} (ok : Row.ofLine line = .ok row) :
    line.words =
      [row.name, row.memoryAllocated, row.memoryTotal, row.cpu, row.status, row.gres,
       row.gresUsed] := by
  rw [Row.ofLine] at ok
  split at ok
  · next words =>
      obtain rfl := Except.ok.inj ok
      exact words
  · cases ok

/-- A record that was read from a line is well formed. -/
theorem wellFormed_of_readLine {line : Text} {r : Record} (ok : readLine line = .ok r) :
    r.WellFormed := by
  obtain ⟨row, split, gives⟩ := readLine_eq_ok_iff.1 ok
  have isWord (column : Text) (member : column ∈ line.words) : Text.IsWord column :=
    Text.isWord_of_mem_words member
  rw [words_of_ofLine split] at isWord
  exact
    { name := gives.name ▸ isWord row.name (by simp)
      status := gives.status ▸ isWord row.status (by simp)
      gpu := by
        intro gpu present
        have givesGpu := gives.gpu
        rw [present] at givesGpu
        exact wellFormed_of_givesGpu (isWord row.gresUsed (by simp)) givesGpu }

/-! ### Listings -/

/-- The listing of some records: their rows with line feeds between. -/
def write (records : List Record) : Text := ['\n'].intercalate (records.map Record.row)

section listing

variable {records : List Record} (wellFormed : ∀ r ∈ records, r.WellFormed)
include wellFormed

/-- The lines of a written listing are the rows of its records. -/
theorem mem_linesOf_write (line : Text) :
    line ∈ linesOf (write records).utf8 ↔ ∃ r ∈ records, r.row = line := by
  rw [mem_linesOf, Octets.decode_utf8]
  have trimmed (r : Record) (member : r ∈ records) : Text.trim r.row = r.row :=
    (wellFormed r member).trim_row
  cases none : records with
  | nil =>
      simp only [write, List.map_nil, List.intercalate_nil, List.splitOn_nil, List.mem_singleton]
      constructor
      · rintro ⟨full, _, rfl, rfl⟩
        exact absurd rfl full
      · rintro ⟨r, member, _⟩
        exact absurd member List.not_mem_nil
  | cons first rest =>
      have pieces : (write records).splitOn '\n' = records.map Record.row := by
        apply List.splitOn_intercalate
        · intro row member
          obtain ⟨r, among, rfl⟩ := List.mem_map.1 member
          exact (wellFormed r among).noFeed_row
        · simp [none]
      rw [← none, pieces]
      constructor
      · rintro ⟨_, piece, member, rfl⟩
        obtain ⟨r, among, rfl⟩ := List.mem_map.1 member
        exact ⟨r, among, (trimmed r among).symm⟩
      · rintro ⟨r, among, rfl⟩
        exact ⟨(wellFormed r among).row_ne_nil, r.row, List.mem_map_of_mem among, trimmed r among⟩

theorem reports_row_iff {r : Record} (among : r ∈ records) (name : Text) :
    Reports r.row name ↔ r.name = name :=
  reports_iff (readLine_row (wellFormed r among))

end listing

/-- A roster is read back from the rows of its records in any order. -/
theorem survey_write {roster : Roster} {records : List Record}
    (wellFormed : ∀ r ∈ roster.records, r.WellFormed) (perm : records.Perm roster.records) :
    survey (write records).utf8 = ⟨roster, [], []⟩ := by
  have wellFormed : ∀ r ∈ records, r.WellFormed := fun r among =>
    wellFormed r (perm.mem_iff.1 among)
  have rows := mem_linesOf_write wellFormed
  have accounts : Accounts (linesOf (write records).utf8) (survey (write records).utf8) :=
    accounts_ofLines (isLinesOf_linesOf _).ascending
  -- a name belongs to one record of the roster, and so to one row
  have unique {a b : Record} (aAmong : a ∈ records) (bAmong : b ∈ records)
      (same : a.name = b.name) : a = b := by
    have foundA := Roster.find?_eq_some_iff.2 ⟨perm.mem_iff.1 aAmong, same⟩
    have foundB := Roster.find?_eq_some_iff.2 ⟨perm.mem_iff.1 bAmong, rfl⟩
    exact Option.some.inj (foundA.symm.trans foundB)
  have rejected : (survey (write records).utf8).rejected = [] := by
    rw [List.eq_nil_iff_forall_not_mem]
    rintro ⟨line, fault⟩ member
    obtain ⟨among, unreadable⟩ := (accounts.rejected.mem_iff line fault).1 member
    obtain ⟨r, amongRecords, rfl⟩ := (rows line).1 among
    rw [readLine_row (wellFormed r amongRecords)] at unreadable
    cases unreadable
  have conflicts : (survey (write records).utf8).conflicts = [] := by
    rw [List.eq_nil_iff_forall_not_mem]
    intro name member
    obtain ⟨first, amongFirst, second, amongSecond, differ, reportsFirst, reportsSecond⟩ :=
      (accounts.conflicts.mem_iff name).1 member
    obtain ⟨a, aAmong, rfl⟩ := (rows first).1 amongFirst
    obtain ⟨b, bAmong, rfl⟩ := (rows second).1 amongSecond
    rw [reports_row_iff wellFormed aAmong] at reportsFirst
    rw [reports_row_iff wellFormed bAmong] at reportsSecond
    exact differ (by rw [unique aAmong bAmong (reportsFirst.trans reportsSecond.symm)])
  have found (name : Text) (r : Record) :
      (survey (write records).utf8).roster.find? name = some r ↔ r ∈ records ∧ r.name = name := by
    constructor
    · intro has
      obtain ⟨named, line, isFirst, read⟩ := accounts.roster.first name r has
      obtain ⟨a, aAmong, rfl⟩ := (rows line).1 isFirst.mem
      rw [readLine_row (wellFormed a aAmong), Except.ok.injEq] at read
      exact ⟨read ▸ aAmong, named⟩
    · rintro ⟨among, named⟩
      have isSome := (accounts.roster.has_iff name).2
        ⟨r.row, (rows r.row).2 ⟨r, among, rfl⟩, (reports_row_iff wellFormed among name).2 named⟩
      obtain ⟨other, has⟩ := Option.isSome_iff_exists.1 isSome
      obtain ⟨otherNamed, line, isFirst, read⟩ := accounts.roster.first name other has
      obtain ⟨a, aAmong, rfl⟩ := (rows line).1 isFirst.mem
      rw [readLine_row (wellFormed a aAmong), Except.ok.injEq] at read
      rw [has, unique among (read ▸ aAmong) (named.trans otherNamed.symm)]
  have rosters : (survey (write records).utf8).roster = roster := by
    apply Roster.eq_of_find?_eq
    intro name
    apply Option.ext
    intro r
    rw [found, Roster.find?_eq_some_iff, perm.mem_iff]
  rw [← rejected, ← conflicts, ← rosters]

/-- Surveys hold well-formed records only. -/
theorem wellFormed_of_mem_survey {listing : Octets} {r : Record}
    (member : r ∈ (survey listing).roster.records) : r.WellFormed := by
  have accounts : Accounts (linesOf listing) (survey listing) :=
    accounts_ofLines (isLinesOf_linesOf listing).ascending
  have found := Roster.find?_eq_some_iff.2 ⟨member, rfl⟩
  obtain ⟨_, line, _, read⟩ := accounts.roster.first r.name r found
  exact wellFormed_of_readLine read

/-- Reading undoes writing for every roster of well-formed records, with its rows in any order, and
nothing else is ever read: every record of every survey is well formed. -/
theorem survey_inverts_write :
    (∀ (roster : Roster) (records : List Record), (∀ r ∈ roster.records, r.WellFormed) →
      records.Perm roster.records → survey (write records).utf8 = ⟨roster, [], []⟩) ∧
    ∀ (listing : Octets), ∀ r ∈ (survey listing).roster.records, r.WellFormed :=
  ⟨fun _ _ wellFormed perm => survey_write wellFormed perm,
   fun _ _ member => wellFormed_of_mem_survey member⟩

/-- Two nodes, the one with GPUs first, although its name is the greater. -/
theorem survey_write_two_nodes :
    let plain : Record :=
      ⟨"c/1".toList, "idle".toList, ⟨0, 4, 0, 4⟩, ⟨0, 18446744073709551615⟩, none⟩
    let gpus : Record := ⟨"g-1".toList, "mixed".toList, ⟨4, 2, 0, 6⟩, ⟨1024, 2048⟩,
      some ⟨"a100".toList, 2, [true, false, true]⟩⟩
    let roster : Roster := ⟨[plain, gpus], by decide⟩
    (∀ r ∈ roster.records, r.WellFormed) ∧ [gpus, plain].Perm roster.records ∧
      survey (write [gpus, plain]).utf8 = ⟨roster, [], []⟩ := by
  intro plain gpus roster
  have wellFormed : ∀ r ∈ roster.records, r.WellFormed := by
    intro r member
    rcases List.mem_cons.1 member with rfl | member
    · refine ⟨by decide, by decide, ?_⟩
      intro g absent
      cases absent
    · rw [List.mem_singleton.1 member]
      refine ⟨by decide, by decide, ?_⟩
      intro g present
      obtain rfl := Option.some.inj present
      exact ⟨by decide, by decide, by decide, by decide⟩
  have perm : [gpus, plain].Perm roster.records := List.Perm.swap plain gpus []
  exact ⟨wellFormed, perm, survey_inverts_write.1 roster [gpus, plain] wellFormed perm⟩

end NodeGauge.Listing
