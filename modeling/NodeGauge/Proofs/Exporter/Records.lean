/-
Module: NodeGauge.Proofs.Exporter.Records
Purpose: The records that an exporter serves as JSON are those that its metrics show: a reader of
  the one can make the other.
Main exports: Exporter.respond_nodes, Exporter.records_make_metrics
-/
import NodeGauge.Proofs.Exporter.Metrics
import NodeGauge.Proofs.Listing.RoundTrip
import NodeGauge.Proofs.Node.Json

namespace NodeGauge.Exporter

open Exposition
open Listing (survey write)
open Node (Record Roster recordsOfJson)

theorem respond_nodes {target : Text} (isNodes : Route.ofTarget? target = some .nodes)
    (state : State) (listing : Octets) :
    (state.respond ⟨"GET".toList, target, .ok listing⟩).response = .nodes (survey listing) := by
  rw [State.respond_get isNodes]
  rfl

/-- The metrics are the families of the nodes, and behind them those of the counters as the answer
leaves them. -/
theorem body_respond_metrics {target : Text} (isMetrics : Route.ofTarget? target = some .metrics)
    (state : State) (listing : Octets) :
    let answered := state.respond ⟨"GET".toList, target, .ok listing⟩
    answered.response.body =
      Page.render (families (observe (survey listing).roster)) ++
        Page.render answered.state.counters.page := by
  intro answered
  have counters : answered.state.counters = state.counters.addSurvey (survey listing) :=
    counters_respond_metrics isMetrics state listing
  rw [respond_metrics isMetrics, counters]
  exact List.flatMap_append

/-- Whatever two exporters have counted, from the same listing the one serves all records of its
survey as a JSON array in the order of their names' octets, and the metrics of the other are, up to
those of its own counters, what the records of that array make. -/
theorem records_make_metrics {nodesTarget metricsTarget : Text}
    (isNodes : Route.ofTarget? nodesTarget = some .nodes)
    (isMetrics : Route.ofTarget? metricsTarget = some .metrics) (first second : State)
    (listing : Octets) :
    let nodes := first.respond ⟨"GET".toList, nodesTarget, .ok listing⟩
    let metrics := second.respond ⟨"GET".toList, metricsTarget, .ok listing⟩
    nodes.response.status = 200 ∧ metrics.response.status = 200 ∧
    ∃ records, recordsOfJson nodes.response.body = .ok records ∧
      records = (survey listing).roster.records ∧
      (records.Pairwise fun a b => a.name.utf8 < b.name.utf8) ∧
      metrics.response.body =
        Page.render (families (observe (Roster.ofList records))) ++
          Page.render metrics.state.counters.page := by
  intro nodes metrics
  let roster := (survey listing).roster
  have served : nodes.response = .nodes (survey listing) := respond_nodes isNodes first listing
  have read : recordsOfJson nodes.response.body = .ok roster.records := by
    rw [served]
    exact roster.recordsOfJson_toJson
  have body : metrics.response.body =
      Page.render (families (observe roster)) ++ Page.render metrics.state.counters.page :=
    body_respond_metrics isMetrics second listing
  refine ⟨?_, ?_, roster.records, read, rfl, ?_, ?_⟩
  · rw [served]
    rfl
  · rw [respond_metrics isMetrics]
    rfl
  · exact roster.ascending.imp Text.utf8_lt_utf8
  · rw [roster.ofList_records]
    exact body

/-- Two nodes, the one of them with a name that both texts must escape. -/
theorem records_make_metrics_two_nodes :
    let plain : Record := ⟨"a\"\\".toList, "idle".toList, ⟨0, 4, 0, 4⟩, ⟨0, 8⟩, none⟩
    let gpus : Record := ⟨"g".toList, "mixed".toList, ⟨4, 2, 0, 6⟩, ⟨1024, 18446744073709551615⟩,
      some ⟨"a100".toList, 2, [true, false, true]⟩⟩
    let listing := (write [gpus, plain]).utf8
    let nodes := (State.start false).respond ⟨"GET".toList, "/nodes".toList, .ok listing⟩
    let metrics := (State.start true).respond ⟨"GET".toList, "/metrics?all".toList, .ok listing⟩
    Route.ofTarget? "/nodes".toList = some .nodes ∧
      Route.ofTarget? "/metrics?all".toList = some .metrics ∧
      recordsOfJson nodes.response.body = .ok [plain, gpus] ∧
      metrics.response.body =
        Page.render (families (observe (Roster.ofList [plain, gpus]))) ++
          Page.render metrics.state.counters.page := by
  intro plain gpus listing nodes metrics
  have isNodes : Route.ofTarget? "/nodes".toList = some .nodes := by decide
  have isMetrics : Route.ofTarget? "/metrics?all".toList = some .metrics := by decide
  let roster : Roster := ⟨[plain, gpus], by decide⟩
  have wellFormed : ∀ r ∈ roster.records, r.WellFormed := by decide
  have perm : [gpus, plain].Perm roster.records := List.Perm.swap plain gpus []
  have known : survey listing = ⟨roster, [], []⟩ := Listing.survey_write wellFormed perm
  obtain ⟨-, -, records, read, same, -, body⟩ :=
    records_make_metrics isNodes isMetrics (State.start false) (State.start true) listing
  have both : records = [plain, gpus] := by rw [same, known]
  rw [both] at read body
  exact ⟨isNodes, isMetrics, read, body⟩

end NodeGauge.Exporter
