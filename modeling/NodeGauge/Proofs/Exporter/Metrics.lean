/-
Module: NodeGauge.Proofs.Exporter.Metrics
Purpose: The metrics that an exporter serves are a page that a scraper takes: the blocks of the
  nodes' gauges, and behind them those of the exporter's own counters.
Main exports: Exporter.Counters.names, Exporter.respond_metrics, Exporter.isExposition_metrics,
  Exporter.metrics_is_exposition
-/
import NodeGauge.Exporter.Routes
import NodeGauge.Proofs.Exposition.Validity
import NodeGauge.Proofs.Listing.RoundTrip

namespace NodeGauge.Exporter

open Exposition
open Node (Record Roster)

/-! ### The page of the counters -/

namespace Counters

/-- The names of the counters' metrics. -/
def names : List Text :=
  ["slurm_exporter_scrapes_total".toList, "slurm_exporter_scrape_failures_total".toList,
   "slurm_exporter_decode_errors_total".toList, "slurm_exporter_duplicate_conflicts_total".toList,
   "slurm_exporter_nodes".toList]

theorem names_page (c : Counters) : c.page.map Family.name = names := rfl

/-- No metric of the counters is a gauge of the nodes. -/
theorem nodup_names : (Gauge.all.map Gauge.name ++ names).Nodup := by decide

theorem ne_name_of_mem_names {metric : Text} (own : metric ∈ names) (g : Gauge) :
    metric ≠ g.name := by
  have apart := (List.nodup_append.1 nodup_names).2.2
  exact (apart g.name (List.mem_map_of_mem (Gauge.mem_all g)) metric own).symm

theorem isPublishable_single {name help : String} (kind : Kind) (value : UInt64)
    (isName : isMetricName name.toList = true) (oneLine : '\n' ∉ help.toList) :
    (single name help kind value).IsPublishable where
  readable := by
    refine ⟨isName, oneLine, ?_⟩
    intro s member own labels
    obtain rfl := List.mem_singleton.1 member
    exact absurd labels (by simp)
  full := by simp [single]
  keys := by simp [single, Family.readings, Sample.reading]
  series := by simp [single, Family.readings]

theorem isPublishable_of_mem_page {c : Counters} : ∀ f ∈ c.page, f.IsPublishable := by
  simp only [page, List.forall_mem_cons]
  refine ⟨?_, ?_, ?_, ?_, ?_, by simp⟩
  · exact isPublishable_single _ _ (by decide) (by decide)
  · exact isPublishable_single _ _ (by decide) (by decide)
  · exact isPublishable_single _ _ (by decide) (by decide)
  · exact isPublishable_single _ _ (by decide) (by decide)
  · exact isPublishable_single _ _ (by decide) (by decide)

end Counters

/-! ### The answer -/

theorem respond_metrics {target : Text} (isMetrics : Route.ofTarget? target = some .metrics)
    (state : State) (listing : Octets) :
    (state.respond ⟨"GET".toList, target, .ok listing⟩).response =
      .metrics (Listing.survey listing) (state.counters.addSurvey (Listing.survey listing)) := by
  rw [State.respond_get isMetrics]
  rfl

theorem status_respond_metrics {target : Text}
    (isMetrics : Route.ofTarget? target = some .metrics) (state : State) (listing : Octets) :
    (state.respond ⟨"GET".toList, target, .ok listing⟩).response.status = 200 := by
  rw [respond_metrics isMetrics]
  rfl

/-- A scrape is counted before its answer is written. -/
theorem counters_respond_metrics {target : Text}
    (isMetrics : Route.ofTarget? target = some .metrics) (state : State) (listing : Octets) :
    (state.respond ⟨"GET".toList, target, .ok listing⟩).state.counters =
      state.counters.addSurvey (Listing.survey listing) := by
  rw [State.respond_get isMetrics]
  rfl

/-- The blocks of the nodes' gauges and those of the counters make a page together. -/
theorem isExposition_metrics (roster : Roster) (counters : Counters) :
    IsExposition (Page.render (families (observe roster) ++ counters.page))
      ((families (observe roster)).map Family.block ++ counters.page.map Family.block) := by
  rw [← List.map_append]
  apply isExposition_render
  · intro f member
    rcases List.mem_append.1 member with ofNodes | ofCounters
    · exact isPublishable_of_mem_families f ofNodes
    · exact Counters.isPublishable_of_mem_page f ofCounters
  · rw [List.map_append, Counters.names_page]
    have nodeNames := names_families_sublist (observe roster)
    exact Counters.nodup_names.sublist (nodeNames.append_right Counters.names)

/-- Whatever the listing says and whatever was counted before, the metrics are a page in which no
metric has two blocks and no series is shown twice, and which shows the nodes in the order of their
names. -/
theorem metrics_is_exposition {target : Text} (isMetrics : Route.ofTarget? target = some .metrics)
    (state : State) (listing : Octets) :
    let response := (state.respond ⟨"GET".toList, target, .ok listing⟩).response
    response.status = 200 ∧ ∃ nodeBlocks ownBlocks,
      IsExposition response.body (nodeBlocks ++ ownBlocks) ∧
      (nodeBlocks.map Block.metric).Sublist (Gauge.all.map Gauge.name) ∧
      ownBlocks.map Block.metric = Counters.names ∧ ∀ b ∈ nodeBlocks, b.IsOrdered := by
  intro response
  have answer : response = .metrics (Listing.survey listing)
      (state.counters.addSurvey (Listing.survey listing)) :=
    respond_metrics isMetrics state listing
  let nodePage := families (observe (Listing.survey listing).roster)
  let ownPage := (state.counters.addSurvey (Listing.survey listing)).page
  refine ⟨by rw [answer]; rfl, nodePage.map Family.block, ownPage.map Family.block, ?_, ?_, ?_, ?_⟩
  · rw [answer]
    exact isExposition_metrics _ _
  · rw [List.map_map]
    exact names_families_sublist _
  · rw [List.map_map]
    exact Counters.names_page _
  · intro b member
    obtain ⟨f, among, rfl⟩ := List.mem_map.1 member
    exact isOrdered_of_mem_families f among

/-- The metrics of an exporter that has done nothing, for a cluster of two nodes, of which the one
with GPUs is listed first and shown last. -/
theorem metrics_is_exposition_two_nodes :
    let rows : List Text :=
      ["b 0 8 1/1/0/2 mix gpu:t:2 gpu:t:1(IDX:1)".toList, "a 0 8 0/2/0/2 idle (null) (null)".toList]
    let listing := Text.utf8 (['\n'].intercalate rows)
    let response :=
      ((State.start false).respond ⟨"GET".toList, "/metrics".toList, .ok listing⟩).response
    let a := some "a".toList
    let b := some "b".toList
    Route.ofTarget? "/metrics".toList = some .metrics ∧ response.status = 200 ∧
      ∃ nodeBlocks ownBlocks, IsExposition response.body (nodeBlocks ++ ownBlocks) ∧
        nodeBlocks.map Block.metric = Gauge.all.map Gauge.name ∧
        (nodeBlocks.map fun block => block.samples.map fun s => (s.node?, s.value)) =
          [[(a, 0), (b, 1)], [(a, 2), (b, 1)], [(a, 0), (b, 0)], [(a, 2), (b, 2)],
           [(a, 0), (b, 0)], [(a, 8), (b, 8)], [(b, 0), (b, 1)], [(b, 1)], [(b, 1)], [(b, 2)]] ∧
        (∀ block ∈ nodeBlocks, block.IsOrdered) ∧
        ownBlocks.map Block.metric = Counters.names ∧
        (ownBlocks.map fun block => block.samples.map Reading.value) =
          [[1], [0], [0], [0], [2]] := by
  intro rows listing response a b
  have isMetrics : Route.ofTarget? "/metrics".toList = some .metrics := by decide
  let plain : Record := ⟨"a".toList, "idle".toList, ⟨0, 2, 0, 2⟩, ⟨0, 8⟩, none⟩
  let gpus : Record :=
    ⟨"b".toList, "mix".toList, ⟨1, 1, 0, 2⟩, ⟨0, 8⟩, some ⟨"t".toList, 1, [false, true]⟩⟩
  let roster : Roster := ⟨[plain, gpus], by decide⟩
  have wellFormed : ∀ r ∈ roster.records, r.WellFormed := by decide
  have written : Listing.write [gpus, plain] = ['\n'].intercalate rows := by decide
  have known : Listing.survey listing = ⟨roster, [], []⟩ := by
    have read := Listing.survey_write wellFormed (List.Perm.swap plain gpus [])
    rwa [written] at read
  obtain ⟨status, nodeBlocks, ownBlocks, exposition, -, own, ordered⟩ :=
    metrics_is_exposition isMetrics (State.start false) listing
  have page := isExposition_metrics roster (Counters.zero.addSurvey ⟨roster, [], []⟩)
  have body : response.body =
      Page.render (families (observe roster) ++
        (Counters.zero.addSurvey ⟨roster, [], []⟩).page) := by
    rw [show response = _ from respond_metrics isMetrics (State.start false) listing, known]
    rfl
  rw [← body] at page
  have lengths : ownBlocks.length = 5 := by
    rw [← List.length_map Block.metric, own]
    rfl
  obtain ⟨rfl, rfl⟩ := List.append_inj' (exposition.unique page) lengths
  exact ⟨isMetrics, status, _, _, exposition, rfl, rfl, ordered, own, rfl⟩

end NodeGauge.Exporter
