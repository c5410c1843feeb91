/-
Module: NodeGauge.Proofs.Exporter.Consistency
Purpose: The numbers of one answer with metrics agree with each other: the counters with the
  exporter, the count of nodes with the samples of their gauges, and the counts of a node's GPUs
  with the samples of the single GPUs.
Main exports: Exporter.Counters.numbers, Exporter.ShowsGpus, Exporter.IsConsistent,
  Exporter.readSamples_metrics, Exporter.metrics_are_consistent
-/
import NodeGauge.Proofs.Exporter.Records
import NodeGauge.Proofs.Exporter.Run
import NodeGauge.Proofs.Exposition.Lookup

namespace NodeGauge.Exposition

/-- The gauges that have a value for every node. -/
def Gauge.ofEveryNode : List Gauge :=
  [cpuAllocated, cpuIdle, cpuOther, cpuTotal, memoryAllocated, memoryTotal]

/-- The gauges that count the GPUs of a node. -/
def Gauge.ofGpuNodes : List Gauge := [gpuTotal, gpuIdle, gpuAllocatedCount]

end NodeGauge.Exposition

namespace NodeGauge.Exporter

open Exposition
open Listing (survey)
open Node (Record Roster GpuSection)

/-! ### Samples that agree -/

/-- The numbers of the counters, each with the metric that shows it. -/
def Counters.numbers (c : Counters) : List (Text × UInt64) :=
  [("slurm_exporter_scrapes_total".toList, c.scrapes),
   ("slurm_exporter_scrape_failures_total".toList, c.failures),
   ("slurm_exporter_decode_errors_total".toList, c.decodeErrors),
   ("slurm_exporter_duplicate_conflicts_total".toList, c.conflicts),
   ("slurm_exporter_nodes".toList, c.nodes)]

/-- What the samples show of the GPUs of a node, of which there are `total`. -/
structure ShowsGpus (samples : List Reading) (node : Text) (total idle count : Nat) : Prop where
  showsTotal : (samplesAt Gauge.gpuTotal.name node samples).map Reading.value = [total]
  showsIdle : (samplesAt Gauge.gpuIdle.name node samples).map Reading.value = [idle]
  showsCount : (samplesAt Gauge.gpuAllocatedCount.name node samples).map Reading.value = [count]
  few : total ≤ 65535
  /-- More GPUs may be reported than there are. -/
  left : (idle : Int) = max 0 ((total : Int) - count)
  /-- Each GPU has one sample. -/
  indices : (samplesAt Gauge.gpuAllocated.name node samples).map Reading.index? =
    (List.range total).map some
  flags : ∀ s ∈ samplesAt Gauge.gpuAllocated.name node samples, s.value = 0 ∨ s.value = 1
  gpuType : ∃ gpuType, ∀ s ∈ samplesAt Gauge.gpuAllocated.name node samples,
    s.label? "gpu_type".toList = some gpuType

/-- The samples agree with the counters and with each other.  They are about these nodes, of which
some have GPUs. -/
structure IsConsistent (samples : List Reading) (counters : Counters) (nodes gpuNodes : List Text) :
    Prop where
  own : ∀ n ∈ counters.numbers, samplesOf n.1 samples = [⟨n.1, [], n.2.toNat⟩]
  distinct : nodes.Nodup
  everyNode : ∀ g ∈ Gauge.ofEveryNode,
    (samplesOf g.name samples).map Reading.node? = nodes.map some
  count : counters.nodes.toNat = nodes.length % UInt64.size
  among : gpuNodes.Sublist nodes
  everyGpuNode : ∀ g ∈ Gauge.ofGpuNodes,
    (samplesOf g.name samples).map Reading.node? = gpuNodes.map some
  gpus : ∀ node ∈ gpuNodes, ∃ total idle count, ShowsGpus samples node total idle count
  others : ∀ s ∈ samplesOf Gauge.gpuAllocated.name samples, ∃ node ∈ gpuNodes, s.node? = some node

/-! ### Samples of an answer -/

/-- What a reader sees of the counters. -/
def Counters.readings (c : Counters) : List Reading :=
  c.numbers.map fun n => ⟨n.1, [], n.2.toNat⟩

theorem Counters.mem_names {c : Counters} {n : Text × UInt64} (number : n ∈ c.numbers) :
    n.1 ∈ Counters.names :=
  List.mem_map_of_mem (f := Prod.fst) number

theorem Counters.readings_page (c : Counters) : c.page.flatMap Family.readings = c.readings := rfl

theorem readSamples_metrics (roster : Roster) (counters : Counters) :
    readSamples (Page.render (families (observe roster)) ++ Page.render counters.page) =
      some (pageReadings roster ++ counters.readings) := by
  have readable : ∀ f ∈ families (observe roster) ++ counters.page, f.IsReadable := by
    intro f member
    rcases List.mem_append.1 member with ofNodes | ofCounters
    · exact (isPublishable_of_mem_families f ofNodes).readable
    · exact (Counters.isPublishable_of_mem_page f ofCounters).readable
  have whole : Page.render (families (observe roster)) ++ Page.render counters.page =
      Page.render (families (observe roster) ++ counters.page) := List.flatMap_append.symm
  rw [whole, readSamples_render readable, List.flatMap_append, readings_families,
    counters.readings_page]
  rfl

/-- A gauge of the nodes has no sample among the counters. -/
theorem samplesOf_gauge (roster : Roster) (counters : Counters) (g : Gauge) :
    samplesOf g.name (pageReadings roster ++ counters.readings) = gaugeReadings roster g := by
  have none : samplesOf g.name counters.readings = [] := by
    apply samplesOf_eq_nil
    intro s member
    obtain ⟨n, number, rfl⟩ := List.mem_map.1 member
    exact Counters.ne_name_of_mem_names (Counters.mem_names number) g
  rw [samplesOf_append, none, List.append_nil, samplesOf_pageReadings]

theorem samplesAt_gauge (roster : Roster) (counters : Counters) (g : Gauge) (node : Text) :
    samplesAt g.name node (pageReadings roster ++ counters.readings) =
      samplesAt g.name node (pageReadings roster) := by
  rw [samplesAt, samplesAt, samplesOf_gauge, samplesOf_pageReadings]

/-- A counter has one sample, and none among the gauges of the nodes. -/
theorem samplesOf_own (roster : Roster) (counters : Counters) :
    ∀ n ∈ counters.numbers,
      samplesOf n.1 (pageReadings roster ++ counters.readings) = [⟨n.1, [], n.2.toNat⟩] := by
  intro n number
  have none : samplesOf n.1 (pageReadings roster) = [] := by
    apply samplesOf_eq_nil
    intro s member
    obtain ⟨o, -, rfl⟩ := List.mem_map.1 member
    exact (Counters.ne_name_of_mem_names (Counters.mem_names number) o.gauge).symm
  rw [samplesOf_append, none, List.nil_append]
  simp only [Counters.numbers, List.mem_cons, List.not_mem_nil, or_false] at number
  rcases number with rfl | rfl | rfl | rfl | rfl <;> rfl

/-! ### Nodes and their GPUs -/

section

variable {roster : Roster} (counters : Counters)

theorem showsGpus_of_mem {r : Record} {gpu : GpuSection} (member : r ∈ roster.records)
    (present : r.gpu = some gpu) (few : gpu.total ≤ 65535) :
    ShowsGpus (pageReadings roster ++ counters.readings) r.name gpu.total gpu.idle
      gpu.allocatedCount.toNat := by
  have shows {g : Gauge} {number : Nat} (ofNode : g ≠ .gpuAllocated)
      (value : nodeValue? r g = some number) :
      (samplesAt g.name r.name (pageReadings roster ++ counters.readings)).map Reading.value =
        [number] := by
    rw [samplesAt_gauge, samplesAt_of_ne member ofNode, value]
    rfl
  have each : samplesAt Gauge.gpuAllocated.name r.name (pageReadings roster ++ counters.readings) =
      gpu.bitmap.zipIdx.map fun bit => (observeOne r gpu bit).reading := by
    rw [samplesAt_gauge, samplesAt_gpuAllocated member, observeEach]
    simp only [present, List.map_map]
    rfl
  constructor
  · exact shows (by decide) (by simp [nodeValue?, present])
  · exact shows (by decide) (by simp [nodeValue?, present])
  · exact shows (by decide) (by simp [nodeValue?, present])
  · exact few
  · rw [GpuSection.idle]
    omega
  · have places : gpu.bitmap.zipIdx.map Prod.snd = List.range gpu.total := by
      rw [List.zipIdx_map_snd, List.range_eq_range']
      rfl
    rw [each, ← places, List.map_map, List.map_map]
    apply List.map_congr_left
    intro bit _
    exact index?_observeOne r gpu bit
  · rw [each]
    intro s shown
    obtain ⟨⟨flag, index⟩, -, rfl⟩ := List.mem_map.1 shown
    cases flag with
    | false => exact Or.inl rfl
    | true => exact Or.inr rfl
  · rw [each]
    refine ⟨gpu.gpuType, ?_⟩
    intro s shown
    obtain ⟨bit, -, rfl⟩ := List.mem_map.1 shown
    exact gpuType_observeOne r gpu bit

theorem gpu_of_mem_gaugeReadings {s : Reading} (shown : s ∈ gaugeReadings roster .gpuAllocated) :
    ∃ r ∈ roster.records, r.gpu.isSome ∧ s.node? = some r.name := by
  obtain ⟨o, kept, rfl⟩ := List.mem_map.1 shown
  rw [filter_observe] at kept
  obtain ⟨r, member, inRecord⟩ := List.mem_flatMap.1 kept
  rw [filter_observeRecord_gpuAllocated] at inRecord
  refine ⟨r, member, ?_, ?_⟩
  · cases present : r.gpu with
    | none => simp [observeEach, present] at inRecord
    | some gpu => rfl
  · obtain ⟨-, gpu, index, labels⟩ := gauge_labels_of_mem_observeEach o inRecord
    exact node?_gpuLabels labels

theorem isConsistent_readings (few : ∀ r ∈ roster.records, ∀ gpu, r.gpu = some gpu →
      gpu.total ≤ 65535)
    (count : counters.nodes.toNat = roster.size % UInt64.size) :
    IsConsistent (pageReadings roster ++ counters.readings) counters
      (roster.records.map Record.name)
      ((roster.records.filter fun r => r.gpu.isSome).map Record.name) where
  own := samplesOf_own roster counters
  distinct := roster.nodup_names
  everyNode := by
    intro g whole
    have ofNode : g ≠ .gpuAllocated := by
      rintro rfl
      exact absurd whole (by decide)
    have always : (fun r : Record => (nodeValue? r g).isSome) = fun _ => true := by
      funext r
      simp only [Gauge.ofEveryNode, List.mem_cons, List.not_mem_nil, or_false] at whole
      rcases whole with rfl | rfl | rfl | rfl | rfl | rfl <;> rfl
    rw [samplesOf_gauge, node?_gaugeReadings roster ofNode, always, List.filter_true]
  count := by
    rw [List.length_map]
    exact count
  among := List.filter_sublist.map Record.name
  everyGpuNode := by
    intro g counted
    have ofNode : g ≠ .gpuAllocated := by
      rintro rfl
      exact absurd counted (by decide)
    have withGpus : (fun r : Record => (nodeValue? r g).isSome) = fun r => r.gpu.isSome := by
      funext r
      simp only [Gauge.ofGpuNodes, List.mem_cons, List.not_mem_nil, or_false] at counted
      rcases counted with rfl | rfl | rfl <;> exact Option.isSome_map
    rw [samplesOf_gauge, node?_gaugeReadings roster ofNode, withGpus]
  gpus := by
    intro node named
    obtain ⟨r, kept, rfl⟩ := List.mem_map.1 named
    obtain ⟨member, withGpus⟩ := List.mem_filter.1 kept
    obtain ⟨gpu, present⟩ := Option.isSome_iff_exists.1 withGpus
    exact ⟨_, _, _, showsGpus_of_mem counters member present (few r member gpu present)⟩
  others := by
    intro s shown
    rw [samplesOf_gauge] at shown
    obtain ⟨r, member, withGpus, node⟩ := gpu_of_mem_gaugeReadings shown
    exact ⟨r.name, List.mem_map_of_mem (List.mem_filter.2 ⟨member, withGpus⟩), node⟩

end

/-! ### The answer -/

/-- Whatever the exporter has done before and whatever the listing says, the samples of an answer
with metrics agree with the counters behind it and with each other.  The count of the nodes is
exact for every listing that can be held in memory. -/
theorem metrics_are_consistent {target : Text}
    (isMetrics : Route.ofTarget? target = some .metrics) (state : State) (listing : Octets) :
    let answered := state.respond ⟨"GET".toList, target, .ok listing⟩
    answered.response.status = 200 ∧ ∃ samples nodes gpuNodes,
      readSamples answered.response.body = some samples ∧
      IsConsistent samples answered.state.counters nodes gpuNodes ∧
      (Fits listing → answered.state.counters.nodes.toNat = nodes.length) := by
  intro answered
  have counters : answered.state.counters = state.counters.addSurvey (survey listing) :=
    counters_respond_metrics isMetrics state listing
  have few : ∀ r ∈ (survey listing).roster.records, ∀ gpu, r.gpu = some gpu →
      gpu.total ≤ 65535 := by
    intro r member gpu present
    exact ((Listing.wellFormed_of_mem_survey member).gpu gpu present).devices
  have count : answered.state.counters.nodes.toNat =
      (survey listing).roster.size % UInt64.size := by
    rw [counters]
    exact UInt64.toNat_ofNat'
  refine ⟨status_respond_metrics isMetrics state listing, _, _, _, ?_,
    isConsistent_readings answered.state.counters few count, ?_⟩
  · rw [show answered.response.body = _ from body_respond_metrics isMetrics state listing]
    exact readSamples_metrics _ _
  · intro fits
    rw [count, Nat.mod_eq_of_lt (size_lt_of_fits fits), List.length_map]
    rfl

/-- The metrics of an exporter that failed before, for a cluster of two nodes, of which one reports
more GPUs in use than it has. -/
theorem metrics_are_consistent_two_nodes :
    let rows : List Text :=
      ["b 0 8 1/1/0/2 mix gpu:a:2 gpu:a:3(IDX:1)".toList, "a 0 8 0/2/0/2 idle (null) (null)".toList]
    let listing := Text.utf8 (['\n'].intercalate rows)
    let failure : Query.Failure := .badEnding "sinfo".toList (some 1) []
    let state := (State.start false).run [.collect .scrape (.error failure)]
    let answered := state.respond ⟨"GET".toList, "/metrics".toList, .ok listing⟩
    Route.ofTarget? "/metrics".toList = some .metrics ∧ Fits listing ∧
      answered.response.status = 200 ∧ answered.state.counters = ⟨2, 1, 0, 0, 2⟩ ∧ ∃ samples,
        readSamples answered.response.body = some samples ∧
        IsConsistent samples answered.state.counters ["a".toList, "b".toList] ["b".toList] ∧
        ShowsGpus samples "b".toList 2 0 3 ∧
        answered.state.counters.nodes.toNat = ["a".toList, "b".toList].length := by
  intro rows listing failure state answered
  have isMetrics : Route.ofTarget? "/metrics".toList = some .metrics := by decide
  have fits : Fits listing := by decide
  let plain : Record := ⟨"a".toList, "idle".toList, ⟨0, 2, 0, 2⟩, ⟨0, 8⟩, none⟩
  let gpus : Record :=
    ⟨"b".toList, "mix".toList, ⟨1, 1, 0, 2⟩, ⟨0, 8⟩, some ⟨"a".toList, 3, [false, true]⟩⟩
  let roster : Roster := ⟨[plain, gpus], by decide⟩
  have wellFormed : ∀ r ∈ roster.records, r.WellFormed := by decide
  have written : Listing.write [gpus, plain] = ['\n'].intercalate rows := by decide
  have known : survey listing = ⟨roster, [], []⟩ := by
    have surveyed := Listing.survey_write wellFormed (List.Perm.swap plain gpus [])
    rwa [written] at surveyed
  have counters : answered.state.counters = ⟨2, 1, 0, 0, 2⟩ := by
    rw [show answered.state.counters = _ from counters_respond_metrics isMetrics state listing,
      known]
    rfl
  obtain ⟨status, samples, nodes, gpuNodes, read, consistent, counted⟩ :=
    metrics_are_consistent isMetrics state listing
  obtain rfl : samples = pageReadings roster ++ Counters.readings ⟨2, 1, 0, 0, 2⟩ := by
    have body : answered.response.body = _ := body_respond_metrics isMetrics state listing
    rw [show (state.respond _).response.body = _ from body, counters, known,
      readSamples_metrics] at read
    exact (Option.some.inj read).symm
  have everyNode := consistent.everyNode .cpuTotal (by decide)
  have everyGpuNode := consistent.everyGpuNode .gpuTotal (by decide)
  rw [samplesOf_gauge, node?_gaugeReadings roster (by decide)] at everyNode everyGpuNode
  obtain rfl : nodes = ["a".toList, "b".toList] :=
    ((Option.some_injective _).list_map everyNode).symm
  obtain rfl : gpuNodes = ["b".toList] :=
    ((Option.some_injective _).list_map everyGpuNode).symm
  have member : gpus ∈ roster.records := by simp [roster]
  have shows := showsGpus_of_mem ⟨2, 1, 0, 0, 2⟩ member rfl (by decide)
  exact ⟨isMetrics, fits, status, counters, _, read, consistent, shows, counted fits⟩

end NodeGauge.Exporter
