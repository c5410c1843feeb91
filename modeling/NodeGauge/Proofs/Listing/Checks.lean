/-
Module: NodeGauge.Proofs.Listing.Checks
Purpose: Which rows are decoded, into which record, and which fault the other rows have.  A row is
  checked in a fixed order, and the first check that fails decides the fault.
Main exports: Listing.Row.Gives, Listing.Check, Listing.Row.FailsAt, Listing.Row.FirstFault,
  Listing.Row.Checked, Listing.Row.decode_reports_first_fault
-/
import Mathlib.Data.List.Basic
import NodeGauge.Listing.Row
import NodeGauge.Proofs.Gres.Expansion
import NodeGauge.Proofs.Gres.Grammar

namespace NodeGauge.Listing

open Gres (Bitmap Describes Descriptor DescriptorFault Expands ItemFault)
open Node (CpuCounts GpuSection Record)

/-! ### What a row gives -/

/-- The number of a record that stands in a field. -/
def NumberField.value (r : Record) : NumberField → UInt64
  | cpuAllocated => r.cpu.allocated
  | cpuIdle => r.cpu.idle
  | cpuOther => r.cpu.other
  | cpuTotal => r.cpu.total
  | memoryAllocated => r.memory.allocated
  | memoryTotal => r.memory.total

namespace Row

/-- The text of a number in a row.  The processors are the parts of one column. -/
def numberText? (row : Row) : NumberField → Option Text
  | .cpuAllocated => (row.cpu.splitOn '/')[0]?
  | .cpuIdle => (row.cpu.splitOn '/')[1]?
  | .cpuOther => (row.cpu.splitOn '/')[2]?
  | .cpuTotal => (row.cpu.splitOn '/')[3]?
  | .memoryAllocated => some row.memoryAllocated
  | .memoryTotal => some row.memoryTotal

/-- A row has this number in a field. -/
def HasNumber (row : Row) (field : NumberField) (n : UInt64) : Prop :=
  ∃ text, row.numberText? field = some text ∧ Numeral.Denotes text n

/-- A row describes the GPUs of its node: all of them in one column, and those in use in the other,
with the list of their indices. -/
structure ListsGpus (row : Row) (all used : Descriptor) (list : Text) : Prop where
  present : row.gres ≠ "(null)".toList
  describesAll : Describes row.gres all
  describesUsed : Describes row.gresUsed used
  group : used.group = some ("IDX:".toList ++ list)

/-- What a row says of GPUs.  There are none if the first column says so, whatever the second one
holds.  Otherwise the type and the count are those in use, and the bitmap has a flag for each. -/
inductive GivesGpu (row : Row) : Option GpuSection → Prop where
  | none (absent : row.gres = "(null)".toList) : GivesGpu row none
  | some {all used : Descriptor} {list : Text} {bitmap : Bitmap}
      (lists : row.ListsGpus all used list) (few : all.count.toNat ≤ 65535)
      (expands : Expands all.count list bitmap) :
      GivesGpu row (some ⟨used.gpuType, used.count, bitmap⟩)

/-- What a row says as a whole. -/
structure Gives (row : Row) (r : Record) : Prop where
  name : r.name = row.name
  status : r.status = row.status
  cpuParts : (row.cpu.splitOn '/').length = 4
  numbers : ∀ field, row.HasNumber field (field.value r)
  gpu : row.GivesGpu r.gpu

/-- A row that has nothing wrong: the processor column has four parts, all numbers are numbers, and
either there are no GPUs or they are described and all items of their list are good. -/
structure IsDecodable (row : Row) : Prop where
  cpuParts : (row.cpu.splitOn '/').length = 4
  numbers : ∀ field, ∃ n, row.HasNumber field n
  gpu : row.gres = "(null)".toList ∨ ∃ all used list, row.ListsGpus all used list ∧
    all.count.toNat ≤ 65535 ∧
      (list = "N/A".toList ∨ ∀ item ∈ list.splitOn ',', Gres.IsGoodItem all.count item)

theorem exists_givesGpu_iff {row : Row} :
    (∃ gpu, row.GivesGpu gpu) ↔
      row.gres = "(null)".toList ∨ ∃ all used list, row.ListsGpus all used list ∧
        all.count.toNat ≤ 65535 ∧
          (list = "N/A".toList ∨ ∀ item ∈ list.splitOn ',', Gres.IsGoodItem all.count item) := by
  constructor
  · rintro ⟨gpu, gives⟩
    cases gives with
    | none absent => exact Or.inl absent
    | some lists few expands =>
        exact Or.inr ⟨_, _, _, lists, few, (Gres.exists_expands_iff few).1 ⟨_, expands⟩⟩
  · rintro (absent | ⟨all, used, list, lists, few, meaning⟩)
    · exact ⟨none, .none absent⟩
    · obtain ⟨bitmap, expands⟩ := (Gres.exists_expands_iff few).2 meaning
      exact ⟨_, .some lists few expands⟩

/-- A row gives a record if there is nothing wrong with it. -/
theorem exists_gives_iff {row : Row} : (∃ r, row.Gives r) ↔ row.IsDecodable := by
  constructor
  · rintro ⟨r, gives⟩
    exact ⟨gives.cpuParts, fun field => ⟨_, gives.numbers field⟩,
      exists_givesGpu_iff.1 ⟨_, gives.gpu⟩⟩
  · rintro ⟨cpuParts, numbers, gpu⟩
    choose value has using numbers
    obtain ⟨gpu, givesGpu⟩ := exists_givesGpu_iff.2 gpu
    refine ⟨⟨row.name, row.status, ⟨value .cpuAllocated, value .cpuIdle, value .cpuOther,
      value .cpuTotal⟩, ⟨value .memoryAllocated, value .memoryTotal⟩, gpu⟩, rfl, rfl, cpuParts, ?_,
      givesGpu⟩
    intro field
    cases field <;> exact has _

end Row

/-! ### The checks of a row -/

/-- The place of a number among the checks of a row. -/
def NumberField.place : NumberField → Nat
  | cpuAllocated => 1
  | cpuIdle => 2
  | cpuOther => 3
  | cpuTotal => 4
  | memoryAllocated => 5
  | memoryTotal => 6

/-- What is checked of a row. -/
inductive Check where
  /-- The processor column has four parts. -/
  | cpuParts
  /-- A field holds a number. -/
  | number (field : NumberField)
  /-- The column of all GPUs is a descriptor. -/
  | gres
  /-- The column of the GPUs in use is a descriptor. -/
  | gresUsed
  /-- The GPUs in use are listed. -/
  | indexList
  /-- There are not too many GPUs. -/
  | deviceCount
  /-- One item of the list is good. -/
  | item (index : Nat)
deriving Repr, DecidableEq

/-- The order of the checks. -/
def Check.place : Check → Nat
  | cpuParts => 0
  | number field => field.place
  | gres => 7
  | gresUsed => 8
  | indexList => 9
  | deviceCount => 10
  | item index => 11 + index

theorem NumberField.place_bounds (field : NumberField) : 1 ≤ field.place ∧ field.place ≤ 6 := by
  cases field <;> decide

theorem NumberField.place_injective {one other : NumberField} (same : one.place = other.place) :
    one = other := by
  cases one <;> cases other <;> first | rfl | exact absurd same (by decide)

/-- No two checks have the same place. -/
theorem Check.place_injective {one other : Check} (same : one.place = other.place) :
    one = other := by
  cases one <;> cases other <;> simp only [place] at same <;>
    grind [NumberField.place_bounds, NumberField.place_injective]

namespace Row

/-- A check of a row fails with a fault. -/
inductive FailsAt (row : Row) : Check → Fault → Prop where
  | cpuParts (parts : (row.cpu.splitOn '/').length ≠ 4) :
      FailsAt row .cpuParts (.malformedCpu row.cpu)
  | number {field : NumberField} {text : Text} (here : row.numberText? field = some text)
      (noNumber : ∀ n, ¬Numeral.Denotes text n) :
      FailsAt row (.number field) (.notNumber field text)
  | gres {fault : Gres.Fault} (present : row.gres ≠ "(null)".toList)
      (bad : DescriptorFault row.gres fault) : FailsAt row .gres (.gres fault)
  | gresUsed {fault : Gres.Fault} (present : row.gres ≠ "(null)".toList)
      (bad : DescriptorFault row.gresUsed fault) : FailsAt row .gresUsed (.gres fault)
  | indexList {used : Descriptor} (present : row.gres ≠ "(null)".toList)
      (describesUsed : Describes row.gresUsed used)
      (unlisted : ∀ list, used.group ≠ some ("IDX:".toList ++ list)) :
      FailsAt row .indexList (.gres (.noIndexList row.gresUsed))
  | deviceCount {all : Descriptor} (present : row.gres ≠ "(null)".toList)
      (describesAll : Describes row.gres all) (many : 65535 < all.count.toNat) :
      FailsAt row .deviceCount (.gres (.tooManyDevices all.count))
  | item {all used : Descriptor} {list item : Text} {index : Nat} {fault : Gres.Fault}
      (lists : row.ListsGpus all used list) (listed : list ≠ "N/A".toList)
      (here : (list.splitOn ',')[index]? = some item)
      (bad : ItemFault all.count item fault) : FailsAt row (.item index) (.gres fault)

/-- The fault of the first check that fails. -/
def FirstFault (row : Row) (fault : Fault) : Prop :=
  ∃ check, row.FailsAt check fault ∧
    ∀ earlier, earlier.place < check.place → ∀ other, ¬row.FailsAt earlier other

/-! ### Readings are unique -/

theorem HasNumber.unique {row : Row} {field : NumberField} {n m : UInt64}
    (one : row.HasNumber field n) (two : row.HasNumber field m) : n = m := by
  obtain ⟨text, here, denotes⟩ := one
  obtain ⟨other, there, denotesOther⟩ := two
  obtain rfl := Option.some.inj (here.symm.trans there)
  exact denotes.unique denotesOther

theorem ListsGpus.unique {row : Row} {all used otherAll otherUsed : Descriptor} {list other : Text}
    (one : row.ListsGpus all used list) (two : row.ListsGpus otherAll otherUsed other) :
    all = otherAll ∧ used = otherUsed ∧ list = other := by
  obtain rfl := one.describesUsed.unique two.describesUsed
  have same := one.group.symm.trans two.group
  exact ⟨one.describesAll.unique two.describesAll, rfl, by simpa using same⟩

theorem GivesGpu.unique {row : Row} {one two : Option GpuSection} (first : row.GivesGpu one)
    (second : row.GivesGpu two) : one = two := by
  cases first with
  | none absent =>
      cases second with
      | none => rfl
      | some lists => exact absurd absent lists.present
  | some lists few expands =>
      cases second with
      | none absent => exact absurd absent lists.present
      | some others _ expandsOther =>
          obtain ⟨rfl, rfl, rfl⟩ := lists.unique others
          rw [expands.unique few expandsOther]

/-- A row gives one record at most. -/
theorem Gives.unique {row : Row} {one two : Record} (first : row.Gives one)
    (second : row.Gives two) : one = two := by
  have number (field : NumberField) : field.value one = field.value two :=
    (first.numbers field).unique (second.numbers field)
  have gpu := first.gpu.unique second.gpu
  have name := first.name.trans second.name.symm
  have status := first.status.trans second.status.symm
  obtain ⟨_, _, ⟨_, _, _, _⟩, ⟨_, _⟩, _⟩ := one
  obtain ⟨_, _, ⟨_, _, _, _⟩, ⟨_, _⟩, _⟩ := two
  simp only [Record.mk.injEq, CpuCounts.mk.injEq, Node.MemoryCounts.mk.injEq]
  exact ⟨name, status, ⟨number .cpuAllocated, number .cpuIdle, number .cpuOther, number .cpuTotal⟩,
    ⟨number .memoryAllocated, number .memoryTotal⟩, gpu⟩

/-- A check fails with one fault at most. -/
theorem FailsAt.unique {row : Row} {check : Check} {fault other : Fault}
    (one : row.FailsAt check fault) (two : row.FailsAt check other) : fault = other := by
  cases one with
  | cpuParts =>
      cases two
      rfl
  | number here =>
      cases two with
      | number there => rw [Option.some.inj (here.symm.trans there)]
  | gres _ bad =>
      cases two with
      | gres _ badOther => rw [bad.unique badOther]
  | gresUsed _ bad =>
      cases two with
      | gresUsed _ badOther => rw [bad.unique badOther]
  | indexList =>
      cases two
      rfl
  | deviceCount _ describes =>
      cases two with
      | deviceCount _ describesOther => rw [describes.unique describesOther]
  | item lists _ here bad =>
      cases two with
      | item others _ there badOther =>
          obtain ⟨rfl, rfl, rfl⟩ := lists.unique others
          obtain rfl := Option.some.inj (here.symm.trans there)
          rw [bad.unique badOther]

/-- A row has one first fault at most. -/
theorem FirstFault.unique {row : Row} {fault other : Fault} (one : row.FirstFault fault)
    (two : row.FirstFault other) : fault = other := by
  obtain ⟨check, fails, first⟩ := one
  obtain ⟨check', fails', first'⟩ := two
  have same : check.place = check'.place := by
    rcases Nat.lt_trichotomy check.place check'.place with before | same | behind
    · exact absurd fails (first' check before fault)
    · exact same
    · exact absurd fails' (first check' behind other)
  obtain rfl := Check.place_injective same
  exact fails.unique fails'

/-- If there are GPUs, then the columns describe them, and their list has a meaning. -/
theorem GivesGpu.exists_lists {row : Row} {gpu : Option GpuSection} (gives : row.GivesGpu gpu)
    (present : row.gres ≠ "(null)".toList) :
    ∃ all used list, row.ListsGpus all used list ∧ all.count.toNat ≤ 65535 ∧
      ∃ bitmap, Expands all.count list bitmap := by
  cases gives with
  | none absent => exact absurd absent present
  | some lists few expands => exact ⟨_, _, _, lists, few, _, expands⟩

/-- No check fails of a row that gives a record. -/
theorem Gives.not_failsAt {row : Row} {r : Record} (gives : row.Gives r) (check : Check)
    (fault : Fault) : ¬row.FailsAt check fault := by
  intro fails
  cases fails with
  | cpuParts parts => exact parts gives.cpuParts
  | number here noNumber =>
      obtain ⟨text, there, denotes⟩ := gives.numbers _
      obtain rfl := Option.some.inj (here.symm.trans there)
      exact noNumber _ denotes
  | gres present bad =>
      obtain ⟨all, used, list, lists, -⟩ := gives.gpu.exists_lists present
      exact bad.not_describes all lists.describesAll
  | gresUsed present bad =>
      obtain ⟨all, used, list, lists, -⟩ := gives.gpu.exists_lists present
      exact bad.not_describes used lists.describesUsed
  | indexList present describes unlisted =>
      obtain ⟨all, used, list, lists, -⟩ := gives.gpu.exists_lists present
      obtain rfl := describes.unique lists.describesUsed
      exact unlisted list lists.group
  | deviceCount present describes many =>
      obtain ⟨all, used, list, lists, few, -⟩ := gives.gpu.exists_lists present
      obtain rfl := describes.unique lists.describesAll
      exact Nat.not_lt.2 few many
  | item lists listed here bad =>
      obtain ⟨all, used, list, others, few, bitmap, expands⟩ :=
        gives.gpu.exists_lists lists.present
      obtain ⟨rfl, rfl, rfl⟩ := lists.unique others
      cases expands with
      | noIndices => exact listed rfl
      | listed good => exact bad.not_isGoodItem (good _ (List.mem_of_getElem? here))

/-! ### Checks made one after another -/

/-- No check in front of a place fails. -/
def Clear (row : Row) (place : Nat) : Prop :=
  ∀ check, check.place < place → ∀ fault, ¬row.FailsAt check fault

theorem clear_zero (row : Row) : row.Clear 0 := by
  intro check before
  exact absurd before (Nat.not_lt_zero _)

/-- One more check that does not fail. -/
theorem Clear.succ {row : Row} (check : Check) (clear : row.Clear check.place)
    (passes : ∀ fault, ¬row.FailsAt check fault) : row.Clear (check.place + 1) := by
  intro other before
  rcases Nat.lt_succ_iff_lt_or_eq.1 before with earlier | same
  · exact clear other earlier
  · obtain rfl := Check.place_injective same
    exact passes

theorem Clear.firstFault {row : Row} (check : Check) {fault : Fault}
    (clear : row.Clear check.place) (fails : row.FailsAt check fault) : row.FirstFault fault :=
  ⟨check, fails, clear⟩

/-- The result of checks that are made up to a place: a value that is as it should be, if none of
the checks fails, and the fault of the first that fails otherwise.  The fault is reported as one of
the row. -/
inductive Checked {ε α : Type} (row : Row) (report : ε → Fault) (place : Nat) (Good : α → Prop) :
    Except ε α → Prop where
  | passed {a : α} (good : Good a) (clear : row.Clear place) :
      Checked row report place Good (.ok a)
  | failed {fault : ε} (first : row.FirstFault (report fault)) :
      Checked row report place Good (.error fault)

section checked

variable {ε α β : Type} {row : Row} {report : ε → Fault} {place last : Nat} {Good : α → Prop}
  {Better : β → Prop}

/-- Checks that go on where others have ended. -/
theorem Checked.bind {first : Except ε α} {second : α → Except ε β}
    (checked : row.Checked report place Good first)
    (later : ∀ a, Good a → row.Clear place → row.Checked report last Better (second a)) :
    row.Checked report last Better (first >>= second) := by
  cases checked with
  | passed good clear => exact later _ good clear
  | failed first => exact .failed first

/-! ### The readers of a row -/

theorem checked_readNumber {field : NumberField} {text : Text}
    (here : row.numberText? field = some text) (clear : row.Clear field.place) :
    row.Checked id (field.place + 1) (row.HasNumber field) (readNumber field text) := by
  rw [readNumber]
  cases number : Numeral.read? text with
  | none =>
      have noNumber := Numeral.read?_eq_none_iff.1 number
      exact .failed (clear.firstFault (.number field) (.number here noNumber))
  | some n =>
      have denotes := Numeral.read?_eq_some_iff.1 number
      refine .passed ⟨text, here, denotes⟩ (clear.succ (.number field) ?_)
      intro fault fails
      cases fails with
      | number there noNumber =>
          obtain rfl := Option.some.inj (here.symm.trans there)
          exact noNumber n denotes

/-- The processor column is as it should be. -/
structure GivesCpu (row : Row) (cpu : CpuCounts) : Prop where
  parts : (row.cpu.splitOn '/').length = 4
  allocated : row.HasNumber .cpuAllocated cpu.allocated
  idle : row.HasNumber .cpuIdle cpu.idle
  other : row.HasNumber .cpuOther cpu.other
  total : row.HasNumber .cpuTotal cpu.total

theorem checked_readCpu (row : Row) :
    row.Checked id NumberField.memoryAllocated.place row.GivesCpu (readCpu row.cpu) := by
  rw [readCpu]
  split
  · next allocated idle other total parts =>
      have four : (row.cpu.splitOn '/').length = 4 := by simp [parts]
      have clear : row.Clear NumberField.cpuAllocated.place :=
        row.clear_zero.succ .cpuParts fun fault fails => by
          cases fails with
          | cpuParts wrong => exact wrong four
      refine (checked_readNumber (by simp [numberText?, parts]) clear).bind fun a hasA clear => ?_
      refine (checked_readNumber (by simp [numberText?, parts]) clear).bind fun i hasI clear => ?_
      refine (checked_readNumber (by simp [numberText?, parts]) clear).bind fun o hasO clear => ?_
      refine (checked_readNumber (by simp [numberText?, parts]) clear).bind fun t hasT clear => ?_
      exact .passed ⟨four, hasA, hasI, hasO, hasT⟩ clear
  · next malformed =>
      refine .failed (row.clear_zero.firstFault .cpuParts (.cpuParts ?_))
      intro four
      obtain ⟨allocated, idle, other, total, parts⟩ := List.length_eq_four.1 four
      exact malformed allocated idle other total parts

/-- A column is read as a descriptor, if that is what is checked of it. -/
theorem checked_descriptor {check : Check} {raw : Text}
    (failsAt_iff : ∀ fault, row.FailsAt check fault ↔
      ∃ bad, DescriptorFault raw bad ∧ fault = .gres bad) (clear : row.Clear check.place) :
    row.Checked .gres (check.place + 1) (Describes raw) (Descriptor.read raw) := by
  cases read : Descriptor.read raw with
  | error bad =>
      have fails := (failsAt_iff _).2 ⟨bad, Descriptor.read_eq_error_iff.1 read, rfl⟩
      exact .failed (clear.firstFault check fails)
  | ok d =>
      have describes := Descriptor.read_eq_ok_iff.1 read
      refine .passed describes (clear.succ check ?_)
      intro fault fails
      obtain ⟨bad, wrong, -⟩ := (failsAt_iff fault).1 fails
      exact wrong.not_describes d describes

theorem failsAt_gres_iff (present : row.gres ≠ "(null)".toList) (fault : Fault) :
    row.FailsAt .gres fault ↔ ∃ bad, DescriptorFault row.gres bad ∧ fault = .gres bad := by
  constructor
  · intro fails
    cases fails with
    | gres _ bad => exact ⟨_, bad, rfl⟩
  · rintro ⟨bad, wrong, rfl⟩
    exact .gres present wrong

theorem failsAt_gresUsed_iff (present : row.gres ≠ "(null)".toList) (fault : Fault) :
    row.FailsAt .gresUsed fault ↔ ∃ bad, DescriptorFault row.gresUsed bad ∧ fault = .gres bad := by
  constructor
  · intro fails
    cases fails with
    | gresUsed _ bad => exact ⟨_, bad, rfl⟩
  · rintro ⟨bad, wrong, rfl⟩
    exact .gresUsed present wrong

section lists

variable {all used : Descriptor} {list : Text} (lists : row.ListsGpus all used list)
include lists

/-- The items in front of the leftmost bad one pass, and so does all that is checked before them. -/
theorem ListsGpus.firstFault_of_leftmost {fault : Gres.Fault} (listed : list ≠ "N/A".toList)
    (clear : row.Clear (Check.item 0).place)
    (leftmost : Gres.LeftmostFault all.count (list.splitOn ',') fault) :
    row.FirstFault (.gres fault) := by
  obtain ⟨before, item, later, whole, good, bad⟩ := leftmost
  have here : (list.splitOn ',')[before.length]? = some item := by simp [whole]
  refine ⟨.item before.length, .item lists listed here bad, ?_⟩
  intro earlier front other fails
  cases earlier with
  | item index =>
      cases fails with
      | item others _ there badOther =>
          obtain ⟨rfl, rfl, rfl⟩ := lists.unique others
          have inFront : index < before.length := Nat.lt_of_add_lt_add_left front
          rw [whole, List.getElem?_append_left inFront] at there
          exact badOther.not_isGoodItem (good _ (List.mem_of_getElem? there))
  | number field =>
      have bounds := field.place_bounds
      exact clear (.number field) (by simp only [Check.place]; omega) other fails
  | _ => exact clear _ (by decide) other fails

theorem ListsGpus.checked_readIndexList (clear : row.Clear Check.deviceCount.place) :
    row.Checked .gres Check.deviceCount.place
      (fun bitmap => all.count.toNat ≤ 65535 ∧ Expands all.count list bitmap)
      (Gres.readIndexList list all.count) := by
  cases read : Gres.readIndexList list all.count with
  | ok bitmap => exact .passed (Gres.readIndexList_eq_ok_iff_expands.1 read) clear
  | error fault =>
      refine .failed ?_
      by_cases few : all.count.toNat ≤ 65535
      · have clear := clear.succ .deviceCount fun fault fails => by
          cases fails with
          | deviceCount _ describes many =>
              obtain rfl := describes.unique lists.describesAll
              exact Nat.not_lt.2 few many
        have listed : list ≠ "N/A".toList := by
          rintro rfl
          cases read.symm.trans (Gres.readIndexList_noIndices few)
        exact lists.firstFault_of_leftmost listed clear
          ((Gres.readIndexList_eq_error_iff few listed).1 read)
      · have many := Nat.not_le.1 few
        rw [Gres.readIndexList_of_many many] at read
        obtain rfl := Except.error.inj read
        exact clear.firstFault .deviceCount (.deviceCount lists.present lists.describesAll many)

end lists

theorem checked_readGpu (present : row.gres ≠ "(null)".toList)
    (clear : row.Clear Check.gres.place) :
    row.Checked .gres Check.deviceCount.place (fun gpu => row.GivesGpu (some gpu))
      (readGpu row.gres row.gresUsed) := by
  refine (checked_descriptor (failsAt_gres_iff present) clear).bind fun all describesAll clear => ?_
  refine (checked_descriptor (failsAt_gresUsed_iff present) clear).bind
    fun used describesUsed clear => ?_
  cases listed : used.indexList? with
  | none =>
      refine .failed (clear.firstFault .indexList (.indexList present describesUsed ?_))
      intro list group
      rw [Descriptor.indexList?_eq_some_iff.2 group] at listed
      cases listed
  | some list =>
      have group := Descriptor.indexList?_eq_some_iff.1 listed
      have lists : row.ListsGpus all used list := ⟨present, describesAll, describesUsed, group⟩
      have clear := clear.succ .indexList fun fault fails => by
        cases fails with
        | indexList _ describes unlisted =>
            obtain rfl := describes.unique describesUsed
            exact unlisted list group
      refine (lists.checked_readIndexList clear).bind fun bitmap expands clear => ?_
      obtain ⟨few, expands⟩ := expands
      exact .passed (.some lists few expands) clear

theorem checked_readResources (clear : row.Clear Check.gres.place) :
    row.Checked id Check.gres.place row.GivesGpu (readResources row.gres row.gresUsed) := by
  rw [readResources]
  split
  · next absent => exact .passed (.none absent) clear
  · next present =>
      have checked := checked_readGpu present clear
      revert checked
      cases readGpu row.gres row.gresUsed with
      | error fault =>
          intro checked
          cases checked with
          | failed first => exact .failed first
      | ok gpu =>
          intro checked
          cases checked with
          | passed gives => exact .passed gives clear

end checked

theorem checked_decode (row : Row) : row.Checked id Check.gres.place row.Gives row.decode := by
  refine row.checked_readCpu.bind fun cpu givesCpu clear => ?_
  refine (checked_readNumber rfl clear).bind fun allocated hasAllocated clear => ?_
  refine (checked_readNumber rfl clear).bind fun total hasTotal clear => ?_
  refine (checked_readResources clear).bind fun gpu givesGpu clear => ?_
  refine .passed ⟨rfl, rfl, givesCpu.parts, ?_, givesGpu⟩ clear
  intro field
  cases field with
  | cpuAllocated => exact givesCpu.allocated
  | cpuIdle => exact givesCpu.idle
  | cpuOther => exact givesCpu.other
  | cpuTotal => exact givesCpu.total
  | memoryAllocated => exact hasAllocated
  | memoryTotal => exact hasTotal

theorem gives_of_decode {row : Row} {r : Record} (ok : row.decode = .ok r) : row.Gives r := by
  have checked := row.checked_decode
  rw [ok] at checked
  cases checked with
  | passed gives => exact gives

theorem firstFault_of_decode {row : Row} {fault : Fault} (refused : row.decode = .error fault) :
    row.FirstFault fault := by
  have checked := row.checked_decode
  rw [refused] at checked
  cases checked with
  | failed first => exact first

theorem decode_eq_ok_iff {row : Row} {r : Record} : row.decode = .ok r ↔ row.Gives r := by
  refine ⟨gives_of_decode, fun gives => ?_⟩
  cases decoded : row.decode with
  | ok other => rw [(gives_of_decode decoded).unique gives]
  | error fault =>
      obtain ⟨check, fails, -⟩ := firstFault_of_decode decoded
      exact absurd fails (gives.not_failsAt check fault)

theorem decode_eq_error_iff {row : Row} {fault : Fault} :
    row.decode = .error fault ↔ row.FirstFault fault := by
  refine ⟨firstFault_of_decode, fun first => ?_⟩
  cases decoded : row.decode with
  | ok r =>
      obtain ⟨check, fails, -⟩ := first
      exact absurd fails ((gives_of_decode decoded).not_failsAt check fault)
  | error other => rw [(firstFault_of_decode decoded).unique first]

theorem exists_decode_iff {row : Row} :
    (∃ r, row.decode = .ok r) ↔ ∀ check fault, ¬row.FailsAt check fault := by
  constructor
  · rintro ⟨r, ok⟩
    exact (gives_of_decode ok).not_failsAt
  · intro passes
    cases decoded : row.decode with
    | ok r => exact ⟨r, rfl⟩
    | error fault =>
        obtain ⟨check, fails, -⟩ := firstFault_of_decode decoded
        exact absurd fails (passes check fault)

/-- A row is decoded just if there is nothing wrong with it, into the record that it gives, and any
other row is refused with the fault of the first check that fails.  So no check fails of a row that
is decoded: what is at fault is never turned into a value. -/
theorem decode_reports_first_fault (row : Row) :
    ((∃ r, row.decode = .ok r) ↔ row.IsDecodable) ∧
      (∀ r, row.decode = .ok r ↔ row.Gives r) ∧
      (∀ fault, row.decode = .error fault ↔ row.FirstFault fault) ∧
      ((∃ r, row.decode = .ok r) ↔ ∀ check fault, ¬row.FailsAt check fault) := by
  refine ⟨?_, fun _ => decode_eq_ok_iff, fun _ => decode_eq_error_iff, exists_decode_iff⟩
  simp only [decode_eq_ok_iff, exists_gives_iff]

/-- Of three faults the one in the processor column counts, although another column stands in front
of it. -/
example : decode ⟨"n1".toList, "x".toList, "8".toList, "1/-/3/4".toList, "idle".toList,
    "gpu:a".toList, "(null)".toList⟩ = .error (.notNumber .cpuIdle "-".toList) := by
  decide

end Row

/-- A line is read if it is a row, into the record that the row gives. -/
theorem readLine_eq_ok_iff {line : Text} {r : Record} :
    readLine line = .ok r ↔ ∃ row, Row.ofLine line = .ok row ∧ row.Gives r := by
  simp only [← Row.decode_eq_ok_iff]
  rw [readLine]
  cases Row.ofLine line <;> simp [bind, Except.bind]

end NodeGauge.Listing
