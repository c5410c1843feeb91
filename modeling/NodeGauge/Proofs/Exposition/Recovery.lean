/-
Module: NodeGauge.Proofs.Exposition.Recovery
Purpose: A page gives back the roster that it shows.  Only the type of a section without GPUs has no
  sample, so two rosters have one page just when they agree but for such types.
Main exports: Node.Record.Alike, Node.Roster.published, Exposition.recordsOfMetrics,
  Exposition.recordsOfMetrics_render, Exposition.metrics_determine_roster
-/
import Mathlib.Algebra.GroupWithZero.Nat
import Mathlib.Data.List.Forall2
import NodeGauge.Proofs.Exposition.Lookup

namespace NodeGauge.Node

/-! ### Records that a page cannot tell apart -/

/-- Two GPU sections that are the same but for the type of no GPUs. -/
structure GpuSection.Alike (g h : GpuSection) : Prop where
  allocatedCount : g.allocatedCount = h.allocatedCount
  bitmap : g.bitmap = h.bitmap
  gpuType : g.bitmap ≠ [] → g.gpuType = h.gpuType

/-- Two records that are the same but for the type of no GPUs. -/
structure Record.Alike (r s : Record) : Prop where
  name : r.name = s.name
  status : r.status = s.status
  cpu : r.cpu = s.cpu
  memory : r.memory = s.memory
  /-- Both have a GPU section, or neither. -/
  gpu : Option.Rel GpuSection.Alike r.gpu s.gpu

/-- A GPU section with what can be seen of it: without GPUs, its type is lost. -/
def GpuSection.published (gpu : GpuSection) : GpuSection :=
  if gpu.bitmap = [] then { gpu with gpuType := [] } else gpu

/-- A record with what can be seen of it. -/
def Record.published (r : Record) : Record := { r with gpu := r.gpu.map GpuSection.published }

/-- A roster with what can be seen of it. -/
def Roster.published (roster : Roster) : Roster where
  records := roster.records.map Record.published
  ascending := List.pairwise_map.2 roster.ascending

namespace GpuSection

@[simp] theorem bitmap_published (gpu : GpuSection) : gpu.published.bitmap = gpu.bitmap := by
  rw [published]
  split <;> rfl

@[simp] theorem allocatedCount_published (gpu : GpuSection) :
    gpu.published.allocatedCount = gpu.allocatedCount := by
  rw [published]
  split <;> rfl

theorem published_eq_iff {g h : GpuSection} : g.published = h.published ↔ g.Alike h := by
  constructor
  · intro same
    have bitmap : g.bitmap = h.bitmap := by simpa using congrArg GpuSection.bitmap same
    refine ⟨by simpa using congrArg GpuSection.allocatedCount same, bitmap, ?_⟩
    intro devices
    rw [published, published, if_neg devices, if_neg (bitmap ▸ devices)] at same
    exact congrArg GpuSection.gpuType same
  · rintro ⟨allocatedCount, bitmap, gpuType⟩
    obtain ⟨ownType, count, bits⟩ := g
    obtain ⟨otherType, _, _⟩ := h
    subst allocatedCount bitmap
    by_cases none : bits = []
    · simp [published, none]
    · obtain rfl : ownType = otherType := gpuType none
      rfl

end GpuSection

/-- What a function sees of two optional values agrees just when they are related. -/
theorem map_eq_map_iff_rel {α β : Type} {f : α → β} {related : α → α → Prop}
    (same : ∀ a b, f a = f b ↔ related a b) {x y : Option α} :
    x.map f = y.map f ↔ Option.Rel related x y := by
  constructor
  · intro equal
    cases x with
    | none =>
        obtain rfl : y = none := by simpa using equal.symm
        exact .none
    | some a =>
        obtain ⟨b, rfl, seen⟩ := Option.map_eq_some_iff.1 equal.symm
        exact .some ((same a b).1 seen.symm)
  · intro alike
    cases alike with
    | none => rfl
    | some one => exact congrArg some ((same _ _).2 one)

theorem Record.published_eq_iff {r s : Record} : r.published = s.published ↔ r.Alike s := by
  have sections : r.gpu.map GpuSection.published = s.gpu.map GpuSection.published ↔
      Option.Rel GpuSection.Alike r.gpu s.gpu :=
    map_eq_map_iff_rel fun _ _ => GpuSection.published_eq_iff
  rw [published, published, Record.mk.injEq, sections]
  constructor
  · rintro ⟨name, status, cpu, memory, gpu⟩
    exact ⟨name, status, cpu, memory, gpu⟩
  · rintro ⟨name, status, cpu, memory, gpu⟩
    exact ⟨name, status, cpu, memory, gpu⟩

theorem GpuSection.alike_published (gpu : GpuSection) : gpu.published.Alike gpu where
  allocatedCount := gpu.allocatedCount_published
  bitmap := gpu.bitmap_published
  gpuType := by
    intro devices
    rw [bitmap_published] at devices
    rw [published, if_neg devices]

theorem Record.alike_published (r : Record) : r.published.Alike r where
  name := rfl
  status := rfl
  cpu := rfl
  memory := rfl
  gpu := by
    rw [published]
    cases r.gpu with
    | none => exact .none
    | some gpu => exact .some gpu.alike_published

theorem Roster.find?_published (roster : Roster) (name : Text) :
    roster.published.find? name = (roster.find? name).map Record.published := by
  rw [find?, published, List.find?_map]
  rfl

theorem Roster.published_eq_iff {a b : Roster} :
    a.published = b.published ↔
      ∀ name, Option.Rel Record.Alike (a.find? name) (b.find? name) := by
  have names (name : Text) : a.published.find? name = b.published.find? name ↔
      Option.Rel Record.Alike (a.find? name) (b.find? name) := by
    rw [find?_published, find?_published]
    exact map_eq_map_iff_rel fun _ _ => Record.published_eq_iff
  constructor
  · intro same name
    exact (names name).1 (by rw [same])
  · intro alike
    exact eq_of_find?_eq fun name => (names name).2 (alike name)

end NodeGauge.Node

namespace NodeGauge.Exposition

open Node (Record Roster GpuSection)

/-! ### What is shown of a record -/

theorem observeGpu_published (r : Record) (gpu : GpuSection) :
    observeGpu r.published gpu.published = observeGpu r gpu := by
  by_cases none : gpu.bitmap = []
  · simp [observeGpu, GpuSection.idle, GpuSection.total, none]
    rfl
  · rw [GpuSection.published, if_neg none]
    rfl

theorem observeRecord_published (r : Record) : observeRecord r.published = observeRecord r := by
  cases present : r.gpu with
  | none =>
      simp only [observeRecord, Record.published, present, Option.map_none]
      rfl
  | some gpu =>
      have own := observeGpu_published r gpu
      simp only [observeRecord, Record.published, present, Option.map_some] at own ⊢
      rw [own]
      rfl

example (r : Record) (count : UInt64) (first second : Text) :
    observeRecord { r with gpu := some ⟨first, count, []⟩ } =
      observeRecord { r with gpu := some ⟨second, count, []⟩ } := rfl

theorem observe_published (roster : Roster) : observe roster.published = observe roster := by
  rw [observe, Roster.published, List.flatMap_map, funext observeRecord_published]
  rfl

theorem length_observeRecord (r : Record) :
    (observeRecord r).length = 6 + r.gpu.elim 0 fun gpu => 3 + gpu.total := by
  cases present : r.gpu with
  | none => simp [observeRecord, present]
  | some gpu =>
      simp [observeRecord, observeGpu, present, GpuSection.total]
      omega

theorem length_flatMap_observeRecord (records : List Record) :
    (records.flatMap observeRecord).length =
      6 * records.length + ((records.filterMap Record.gpu).map fun gpu => 3 + gpu.total).sum := by
  induction records with
  | nil => rfl
  | cons r records ih =>
      rw [List.flatMap_cons, List.length_append, ih, length_observeRecord, List.length_cons]
      cases present : r.gpu with
      | none =>
          rw [List.filterMap_cons_none present, Option.elim_none]
          omega
      | some gpu =>
          rw [List.filterMap_cons_some present, Option.elim_some, List.map_cons, List.sum_cons]
          omega

/-! ### Records read from a page -/

/-- The number that a gauge shows for a node. -/
def number? (samples : List Reading) (node : Text) (g : Gauge) : Option UInt64 :=
  (samplesAt g.name node samples).head?.map fun s => UInt64.ofNat s.value

/-- The type that the samples of single GPUs name. -/
def gpuTypeOf (each : List Reading) : Text :=
  (each.head?.bind fun s => s.label? "gpu_type".toList).getD []

/-- The GPU section of a node: it has one if its GPUs are counted, and the samples of the single
GPUs stand in their order. -/
def gpuOf? (samples : List Reading) (node : Text) : Option GpuSection :=
  (number? samples node .gpuAllocatedCount).map fun count =>
    let each := samplesAt Gauge.gpuAllocated.name node samples
    ⟨gpuTypeOf each, count, each.map fun s => s.value == 1⟩

/-- The record of the node that a sample is about. -/
def recordOf? (samples : List Reading) (s : Reading) : Option Record := do
  let name ← s.node?
  let status ← s.label? "status".toList
  let number := number? samples name
  return {
    name := name
    status := status
    cpu := ⟨← number .cpuAllocated, ← number .cpuIdle, ← number .cpuOther, ← number .cpuTotal⟩
    memory := ⟨← number .memoryAllocated, ← number .memoryTotal⟩
    gpu := gpuOf? samples name }

/-- Read the records of a page, one for each sample of the first gauge. -/
def recordsOfMetrics (text : Text) : Option (List Record) := do
  let samples ← readSamples text
  (samplesOf Gauge.cpuAllocated.name samples).mapM (recordOf? samples)

/-- The samples of the single GPUs name their type, if there are any. -/
theorem gpuTypeOf_observeEach {r : Record} {gpu : GpuSection} (present : r.gpu = some gpu) :
    gpuTypeOf ((observeEach r).map Observation.reading) = gpu.published.gpuType := by
  simp only [observeEach, present, GpuSection.published]
  cases gpu.bitmap <;> rfl

/-- The values of the single GPUs are their bits. -/
theorem bits_observeEach {r : Record} {gpu : GpuSection} (present : r.gpu = some gpu) :
    ((observeEach r).map Observation.reading).map (fun s => s.value == 1) = gpu.bitmap := by
  have own (bit : Bool × Nat) : (bit.1.toNat == 1) = bit.1 := by cases bit.1 <;> rfl
  simp only [observeEach, present, List.map_map, Function.comp_def, observeOne,
    Observation.reading, own]
  exact List.zipIdx_map_fst 0 gpu.bitmap

section

variable {roster : Roster} {r : Record} (member : r ∈ roster.records)
include member

theorem number?_pageReadings {g : Gauge} (ofNode : g ≠ .gpuAllocated) :
    number? (pageReadings roster) r.name g = (nodeValue? r g).map UInt64.ofNat := by
  rw [number?, samplesAt_of_ne member ofNode]
  cases nodeValue? r g <;> rfl

theorem gpuOf?_pageReadings :
    gpuOf? (pageReadings roster) r.name = r.gpu.map GpuSection.published := by
  have counted := number?_pageReadings member (g := .gpuAllocatedCount) (by decide)
  rw [gpuOf?, counted, samplesAt_gpuAllocated member, nodeValue?]
  cases present : r.gpu with
  | none => rfl
  | some gpu =>
      have count : UInt64.ofNat gpu.allocatedCount.toNat = gpu.published.allocatedCount := by
        rw [UInt64.ofNat_toNat, GpuSection.allocatedCount_published]
      have bits := (bits_observeEach present).trans gpu.bitmap_published.symm
      simp only [Option.map_some, gpuTypeOf_observeEach present, count, bits]

theorem recordOf?_pageReadings (value : Nat) :
    recordOf? (pageReadings roster) ⟨Gauge.cpuAllocated.name, nodeLabels r, value⟩ =
      some r.published := by
  have node : Reading.node? ⟨Gauge.cpuAllocated.name, nodeLabels r, value⟩ = some r.name := by
    simp [Reading.node?, Reading.label?, nodeLabels]
  have number {g : Gauge} (ofNode : g ≠ .gpuAllocated) :=
    number?_pageReadings (g := g) member ofNode
  simp [recordOf?, node, number, nodeValue?, gpuOf?_pageReadings member]
  rfl

end

/-- The page of a roster reads back as its records, with what can be seen of them. -/
theorem recordsOfMetrics_render (roster : Roster) :
    recordsOfMetrics (families (observe roster)).render = some roster.published.records := by
  have first : samplesOf Gauge.cpuAllocated.name (pageReadings roster) =
      roster.records.map fun r =>
        ⟨Gauge.cpuAllocated.name, nodeLabels r, r.cpu.allocated.toNat⟩ := by
    rw [samplesOf_pageReadings, gaugeReadings_of_ne roster (by decide)]
    simp [nodeValue?, List.map_eq_flatMap]
  rw [recordsOfMetrics, readSamples_observe, Option.bind_eq_bind, Option.bind_some, first]
  exact mapM_map fun r member => recordOf?_pageReadings member _

/-! ### The page determines the roster -/

theorem render_observe_eq_iff {a b : Roster} :
    (families (observe a)).render = (families (observe b)).render ↔ a.published = b.published := by
  constructor
  · intro same
    have read := recordsOfMetrics_render a
    rw [same, recordsOfMetrics_render b] at read
    exact Roster.ext (Option.some.inj read).symm
  · intro same
    rw [← observe_published a, ← observe_published b, same]

/-- Two rosters have one page just when every name finds records in both that differ at most in the
type of no GPUs, or in neither.  A reader gets the records back from the page, and a name has six
observations, with GPUs three more and one for each of them. -/
theorem metrics_determine_roster :
    (∀ a b : Roster, (families (observe a)).render = (families (observe b)).render ↔
      ∀ name, Option.Rel Record.Alike (a.find? name) (b.find? name)) ∧
    (∀ roster : Roster, ∃ records,
      recordsOfMetrics (families (observe roster)).render = some records ∧
        List.Forall₂ Record.Alike records roster.records) ∧
    (∀ roster : Roster, (observe roster).length =
      6 * roster.size + ((roster.records.filterMap Record.gpu).map fun gpu => 3 + gpu.total).sum) ∧
    ∀ (roster : Roster) (name : Text),
      ((observe roster).filter fun o => o.reading.node? = some name).length =
        (roster.find? name).elim 0 fun r => 6 + r.gpu.elim 0 fun gpu => 3 + gpu.total := by
  refine ⟨?_, ?_, ?_, ?_⟩
  · intro a b
    rw [render_observe_eq_iff, Roster.published_eq_iff]
  · intro roster
    refine ⟨_, recordsOfMetrics_render roster, ?_⟩
    rw [Roster.published, List.forall₂_map_left_iff, List.forall₂_same]
    intro r _
    exact r.alike_published
  · intro roster
    exact length_flatMap_observeRecord roster.records
  · intro roster name
    rw [filter_observe_node]
    cases roster.find? name with
    | none => rfl
    | some r => exact length_observeRecord r

end NodeGauge.Exposition
