/-
Module: NodeGauge.Proofs.Exposition.Lookup
Purpose: What a reader finds on the page of a roster under a metric, and under a metric and a node:
  of each name what its record says, and nothing of any other name.
Main exports: Exposition.nodeValue?, Exposition.filter_observeRecord_of_ne,
  Exposition.filter_observe_node, Exposition.samplesOf, Exposition.samplesAt,
  Exposition.pageReadings, Exposition.samplesOf_pageReadings, Exposition.samplesAt_pageReadings
-/
import NodeGauge.Proofs.Exposition.Validity
import NodeGauge.Proofs.Node.Roster

namespace NodeGauge.Exposition

open Node (Record Roster GpuSection)

/-! ### Values of whole nodes -/

/-- The value that a gauge of whole nodes has for a record, if it has one. -/
def nodeValue? (r : Record) : Gauge → Option Nat
  | .cpuAllocated => some r.cpu.allocated.toNat
  | .cpuIdle => some r.cpu.idle.toNat
  | .cpuOther => some r.cpu.other.toNat
  | .cpuTotal => some r.cpu.total.toNat
  | .memoryAllocated => some r.memory.allocated.toNat
  | .memoryTotal => some r.memory.total.toNat
  | .gpuAllocated => none
  | .gpuAllocatedCount => r.gpu.map fun gpu => gpu.allocatedCount.toNat
  | .gpuIdle => r.gpu.map GpuSection.idle
  | .gpuTotal => r.gpu.map GpuSection.total

/-- The observation of a whole node. -/
def observeWhole (r : Record) (g : Gauge) (value : Nat) : Observation := ⟨g, nodeLabels r, value⟩

theorem filter_observeRecord_of_ne (r : Record) {g : Gauge} (ofNode : g ≠ .gpuAllocated) :
    (observeRecord r).filter (·.gauge = g) = (nodeValue? r g).toList.map (observeWhole r g) := by
  rw [filter_observeRecord, if_neg ofNode]
  cases present : r.gpu with
  | none => cases g <;> simp [observeNode, nodeValue?, observeWhole, present]
  | some gpu =>
      cases g with
      | gpuAllocated => exact absurd rfl ofNode
      | _ => simp [observeNode, nodeValue?, observeWhole, present]

theorem filter_observeRecord_gpuAllocated (r : Record) :
    (observeRecord r).filter (·.gauge = .gpuAllocated) = observeEach r := by
  rw [filter_observeRecord, if_pos rfl]

/-! ### Observations by node -/

theorem node?_of_mem_observeRecord {r : Record} :
    ∀ o ∈ observeRecord r, o.reading.node? = some r.name := by
  intro o member
  rw [observeRecord_eq] at member
  rcases List.mem_append.1 member with whole | each
  · exact node?_nodeLabels (gauge_labels_of_mem_observeNode o whole).2
  · obtain ⟨-, gpu, index, labels⟩ := gauge_labels_of_mem_observeEach o each
    exact node?_gpuLabels labels

theorem filter_observeRecord_node (r : Record) (name : Text) :
    (observeRecord r).filter (fun o => o.reading.node? = some name) =
      if r.name = name then observeRecord r else [] := by
  split
  · next same =>
      apply List.filter_eq_self.2
      intro o member
      rw [node?_of_mem_observeRecord o member, same]
      exact decide_eq_true rfl
  · next other =>
      apply List.filter_eq_nil_iff.2
      intro o member
      rw [node?_of_mem_observeRecord o member]
      simpa using other

/-- Of records in strictly ascending order of names, a name selects the part of one. -/
theorem flatMap_ite_name {α : Type} {records : List Record}
    (ascending : records.Pairwise fun a b => a.name < b.name) (part : Record → List α)
    (name : Text) :
    (records.flatMap fun r => if r.name = name then part r else []) =
      (records.find? (·.name = name)).elim [] part := by
  induction records with
  | nil => rfl
  | cons r records ih =>
      obtain ⟨least, ascending⟩ := List.pairwise_cons.1 ascending
      rw [List.flatMap_cons]
      by_cases here : r.name = name
      · have others : (records.flatMap fun s => if s.name = name then part s else []) = [] := by
          apply List.flatMap_eq_nil_iff.2
          intro s later
          have greater : name < s.name := here ▸ least s later
          exact if_neg fun same => List.lt_irrefl _ (same ▸ greater)
        rw [if_pos here, others, List.append_nil, List.find?_cons_of_pos (by simpa using here)]
        rfl
      · rw [if_neg here, List.nil_append, List.find?_cons_of_neg (by simpa using here)]
        exact ih ascending

/-- Of a name a roster shows what the name finds. -/
theorem filter_observe_node (roster : Roster) (name : Text) :
    (observe roster).filter (fun o => o.reading.node? = some name) =
      (roster.find? name).elim [] observeRecord := by
  have parts : (fun r => (observeRecord r).filter fun o => o.reading.node? = some name) =
      fun r => if r.name = name then observeRecord r else [] :=
    funext fun r => filter_observeRecord_node r name
  rw [observe, List.filter_flatMap, parts]
  exact flatMap_ite_name roster.ascending observeRecord name

/-! ### Samples of a page -/

/-- The samples of a metric. -/
def samplesOf (metric : Text) (samples : List Reading) : List Reading :=
  samples.filter (·.metric = metric)

/-- The samples of a metric about a node. -/
def samplesAt (metric node : Text) (samples : List Reading) : List Reading :=
  (samplesOf metric samples).filter (·.node? = some node)

theorem samplesOf_append (metric : Text) (first second : List Reading) :
    samplesOf metric (first ++ second) = samplesOf metric first ++ samplesOf metric second :=
  List.filter_append first second

theorem samplesOf_eq_nil {metric : Text} {samples : List Reading}
    (others : ∀ s ∈ samples, s.metric ≠ metric) : samplesOf metric samples = [] := by
  apply List.filter_eq_nil_iff.2
  intro s member
  simpa using others s member

/-- What a reader sees of the page of a roster. -/
def pageReadings (roster : Roster) : List Reading :=
  (regrouped (observe roster)).map Observation.reading

theorem readSamples_observe (roster : Roster) :
    readSamples (families (observe roster)).render = some (pageReadings roster) := by
  have readable := isReadable_of_mem_families (hasLabelNames_observe roster)
  rw [readSamples_render readable, readings_families]
  rfl

theorem samplesOf_pageReadings (roster : Roster) (g : Gauge) :
    samplesOf g.name (pageReadings roster) = gaugeReadings roster g := by
  have byGauge : (fun o : Observation => decide (o.reading.metric = g.name)) =
      fun o => decide (o.gauge = g) := by
    funext o
    exact decide_eq_decide.2 ⟨Gauge.name_injective, congrArg Gauge.name⟩
  rw [samplesOf, pageReadings, List.filter_map, Function.comp_def, byGauge, filter_regrouped]
  rfl

theorem samplesAt_pageReadings (roster : Roster) (g : Gauge) (name : Text) :
    samplesAt g.name name (pageReadings roster) =
      (((roster.find? name).elim [] observeRecord).filter (·.gauge = g)).map
        Observation.reading := by
  rw [samplesAt, samplesOf_pageReadings, gaugeReadings, List.filter_map, Function.comp_def,
    List.filter_comm, filter_observe_node]

section

variable {roster : Roster} {r : Record} (member : r ∈ roster.records)
include member

theorem samplesAt_name (g : Gauge) :
    samplesAt g.name r.name (pageReadings roster) =
      ((observeRecord r).filter (·.gauge = g)).map Observation.reading := by
  have found : roster.find? r.name = some r := Roster.find?_eq_some_iff.2 ⟨member, rfl⟩
  rw [samplesAt_pageReadings, found]
  rfl

theorem samplesAt_of_ne {g : Gauge} (ofNode : g ≠ .gpuAllocated) :
    samplesAt g.name r.name (pageReadings roster) =
      (nodeValue? r g).toList.map fun value => ⟨g.name, nodeLabels r, value⟩ := by
  rw [samplesAt_name member, filter_observeRecord_of_ne r ofNode, List.map_map]
  rfl

theorem samplesAt_gpuAllocated :
    samplesAt Gauge.gpuAllocated.name r.name (pageReadings roster) =
      (observeEach r).map Observation.reading := by
  rw [samplesAt_name member, filter_observeRecord_gpuAllocated]

end

theorem gaugeReadings_of_ne (roster : Roster) {g : Gauge} (ofNode : g ≠ .gpuAllocated) :
    gaugeReadings roster g = roster.records.flatMap fun r =>
      (nodeValue? r g).toList.map fun value => ⟨g.name, nodeLabels r, value⟩ := by
  have parts : (fun r => (observeRecord r).filter (·.gauge = g)) =
      fun r => (nodeValue? r g).toList.map (observeWhole r g) :=
    funext fun r => filter_observeRecord_of_ne r ofNode
  rw [gaugeReadings, filter_observe, parts, List.map_flatMap]
  apply congrArg (roster.records.flatMap ·)
  funext r
  rw [List.map_map]
  rfl

/-- A gauge of whole nodes has one sample for each node that has a value for it. -/
theorem node?_gaugeReadings (roster : Roster) {g : Gauge} (ofNode : g ≠ .gpuAllocated) :
    (gaugeReadings roster g).map Reading.node? =
      ((roster.records.filter fun r => (nodeValue? r g).isSome).map Record.name).map some := by
  have node (r : Record) (value : Nat) :
      Reading.node? ⟨g.name, nodeLabels r, value⟩ = some r.name := by
    simp [Reading.node?, Reading.label?, nodeLabels]
  rw [gaugeReadings_of_ne roster ofNode]
  induction roster.records with
  | nil => rfl
  | cons r records ih =>
      rw [List.flatMap_cons, List.map_append, ih]
      cases value : nodeValue? r g <;> simp [value, node]

end NodeGauge.Exposition
