/-
Module: NodeGauge.Proofs.Exporter.Failure
Purpose: What the query gives decides what an exporter answers.  A listing is published whatever
  was published before.  Without one nothing is published, and the cycle moves only its own account.
  What a command wrote before it ended badly is never heard of.
Main exports: Query.Run.Alike, Query.fetch_eq_of_alike, Exporter.IsFailedCycle,
  Exporter.IsUnavailable, Exporter.Errand, Exporter.State.obey, Exporter.supply_decides_answers
-/
import Mathlib.Data.List.Forall2
import NodeGauge.Proofs.Exporter.Records
import NodeGauge.Proofs.Exporter.Trace
import NodeGauge.Query.Run

namespace NodeGauge.Query

/-! ### Runs of the command -/

theorem fetch_bad {code : Option Int} (bad : code ≠ some 0) (command : Text)
    (output errors : Octets) :
    fetch command (.ended code output errors) =
      ⟨.error (.badEnding command code errors.decode.trim), []⟩ := by
  rw [fetch.eq_def]
  split
  · next started => cases started
  · next ended =>
      cases ended
      exact absurd rfl bad
  · next ended =>
      cases ended
      rfl

theorem listing_fetch_eq_ok_iff {command : Text} {run : Run} {listing : Octets} :
    (fetch command run).listing = .ok listing ↔ ∃ errors, run = .ended (some 0) listing errors := by
  constructor
  · intro ok
    cases run with
    | notStarted cause => cases ok
    | ended code output errors =>
        by_cases good : code = some 0
        · subst good
          obtain rfl := Except.ok.inj ok
          exact ⟨errors, rfl⟩
        · rw [fetch_bad good] at ok
          cases ok
  · rintro ⟨errors, rfl⟩
    rfl

/-- Two runs of a command that are the same but for what was written before a bad ending. -/
inductive Run.Alike : Run → Run → Prop where
  | same (run : Run) : Alike run run
  | unheard {code : Option Int} (bad : code ≠ some 0) (first second errors : Octets) :
      Alike (.ended code first errors) (.ended code second errors)

theorem fetch_eq_of_alike {first second : Run} (alike : first.Alike second) (command : Text) :
    fetch command first = fetch command second := by
  cases alike with
  | same => rfl
  | unheard bad => rw [fetch_bad bad, fetch_bad bad]

end NodeGauge.Query

namespace NodeGauge.Exporter

open Exposition (Page families observe)
open Listing (survey)
open Log (Event)
open Query (Failure fetch)

/-! ### Cycles without a listing -/

/-- All that a cycle does whose query failed. -/
structure IsFailedCycle (failure : Failure) (cycle : Cycle) (before after : State)
    (events : List Event) : Prop where
  /-- Scrapes and failures count up by one, and start again from zero after the greatest number. -/
  scrapes : after.counters.scrapes =
    before.counters.scrapes + if cycle = .scrape then 1 else 0
  failures : after.counters.failures =
    before.counters.failures + if cycle = .scrape then 1 else 0
  decodeErrors : after.counters.decodeErrors = before.counters.decodeErrors
  conflicts : after.counters.conflicts = before.counters.conflicts
  nodes : after.counters.nodes = before.counters.nodes
  event : ∃ e : Event, events = [e] ∧ e.level = .error ∧
    e.fields = [("error".toList, .plain failure.message)]
  fatal : after.fatal = if before.exitOnFailure then some failure.message else before.fatal
  setting : after.exitOnFailure = before.exitOnFailure

/-- The answer of an exporter whose query failed, with all that giving it does. -/
structure IsUnavailable (failure : Failure) (cycle : Cycle) (before : State) (answered : Answered) :
    Prop where
  status : answered.response.status = 503
  body : answered.response.body = "node source failed: ".toList ++ failure.message ++ ['\n']
  cycle : IsFailedCycle failure cycle before answered.state answered.events

theorem isFailedCycle_collect (state : State) (cycle : Cycle) (failure : Failure) :
    let collected := state.collect cycle (.error failure)
    IsFailedCycle failure cycle state collected.state collected.events := by
  have event : ∃ e : Event, [failureEvent failure] = [e] ∧ e.level = .error ∧
      e.fields = [("error".toList, .plain failure.message)] := ⟨_, rfl, rfl, rfl⟩
  cases cycle with
  | scrape => exact ⟨rfl, rfl, rfl, rfl, rfl, event, rfl, rfl⟩
  | inspect =>
      have still (n : UInt64) : n = n + 0 := (UInt64.add_zero n).symm
      exact ⟨still _, still _, rfl, rfl, rfl, event, rfl, rfl⟩

theorem isUnavailable_respond {target : Text} {route : Route} {cycle : Cycle}
    (isRoute : Route.ofTarget? target = some route) (runs : route.cycle? = some cycle)
    (state : State) (failure : Failure) :
    IsUnavailable failure cycle state
      (state.respond ⟨"GET".toList, target, .error failure⟩) := by
  have failed := isFailedCycle_collect state cycle failure
  rw [State.respond_get isRoute]
  simp only [State.follow, runs]
  exact ⟨rfl, rfl, failed⟩

/-! ### Exporters that run a command -/

/-- A turn of an exporter whose query is a command, with what happens if the command is run. -/
inductive Errand where
  | request (method target : Text) (run : Query.Run)
  | collect (cycle : Cycle) (run : Query.Run)

namespace Errand

/-- What happens if the command is run. -/
def run : Errand → Query.Run
  | request _ _ run => run
  | collect _ run => run

/-- The turn of an errand. -/
def turn (command : Text) : Errand → Turn
  | request method target run => .request ⟨method, target, (fetch command run).listing⟩
  | collect cycle run => .collect cycle (fetch command run).listing

/-- What the query of an errand logs, which is nothing if no cycle runs it. -/
def queryEvents (command : Text) (errand : Errand) : List Event :=
  if (errand.turn command).cycle?.isSome then (fetch command errand.run).events else []

/-- Two errands that are the same but for what was written before a bad ending. -/
inductive Alike : Errand → Errand → Prop where
  | request (method target : Text) {first second : Query.Run} (runs : first.Alike second) :
      Alike (.request method target first) (.request method target second)
  | collect (cycle : Cycle) {first second : Query.Run} (runs : first.Alike second) :
      Alike (.collect cycle first) (.collect cycle second)

end Errand

/-- The step of an errand.  The query is a part of the cycle, and what it logs comes first. -/
def State.obey (state : State) (command : Text) (errand : Errand) : Step :=
  let step := state.take (errand.turn command)
  { step with events := errand.queryEvents command ++ step.events }

/-- The steps of some errands, each from where the one before it ends. -/
def State.obeyAll (state : State) (command : Text) : List Errand → List Step
  | [] => []
  | errand :: errands =>
      let step := state.obey command errand
      step :: step.after.obeyAll command errands

theorem Errand.turn_eq_of_alike {first second : Errand} (alike : first.Alike second)
    (command : Text) : first.turn command = second.turn command := by
  cases alike with
  | request method target runs => simp only [turn, Query.fetch_eq_of_alike runs command]
  | collect cycle runs => simp only [turn, Query.fetch_eq_of_alike runs command]

theorem Errand.fetch_eq_of_alike {first second : Errand} (alike : first.Alike second)
    (command : Text) : fetch command first.run = fetch command second.run := by
  cases alike with
  | request method target runs => exact Query.fetch_eq_of_alike runs command
  | collect cycle runs => exact Query.fetch_eq_of_alike runs command

theorem obey_eq_of_alike {first second : Errand} (alike : first.Alike second) (state : State)
    (command : Text) : state.obey command first = state.obey command second := by
  have events : first.queryEvents command = second.queryEvents command := by
    rw [Errand.queryEvents, Errand.queryEvents, Errand.turn_eq_of_alike alike,
      Errand.fetch_eq_of_alike alike]
  rw [State.obey, State.obey, Errand.turn_eq_of_alike alike, events]

theorem obeyAll_eq_of_alike {first second : List Errand}
    (alike : List.Forall₂ Errand.Alike first second) (state : State) (command : Text) :
    state.obeyAll command first = state.obeyAll command second := by
  induction alike generalizing state with
  | nil => rfl
  | cons head _ ih => simp only [State.obeyAll, obey_eq_of_alike head, ih]

/-! ### The supply decides -/

/-- Whatever two exporters have done before, from the same listing both publish the same nodes.
From the same failure both publish nothing but its message, which is also what their event and
their signal to stop say; and a failed cycle changes no other account than its own.  A command gives
a listing, its whole output, only if it starts and exits with code zero.  Otherwise its output
changes nothing in any step of any run. -/
theorem supply_decides_answers {metricsTarget nodesTarget : Text}
    (isMetrics : Route.ofTarget? metricsTarget = some .metrics)
    (isNodes : Route.ofTarget? nodesTarget = some .nodes) :
    (∀ (first second : State) (listing : Octets),
      let one := first.respond ⟨"GET".toList, metricsTarget, .ok listing⟩
      let two := second.respond ⟨"GET".toList, metricsTarget, .ok listing⟩
      let nodePart := Page.render (families (observe (survey listing).roster))
      one.response.status = 200 ∧ two.response.status = 200 ∧
      one.response.body = nodePart ++ one.state.counters.page.render ∧
      two.response.body = nodePart ++ two.state.counters.page.render) ∧
    (∀ (first second : State) (listing : Octets),
      let one := first.respond ⟨"GET".toList, nodesTarget, .ok listing⟩
      let two := second.respond ⟨"GET".toList, nodesTarget, .ok listing⟩
      one.response.status = 200 ∧ one.response = two.response) ∧
    (∀ (state : State) (failure : Failure),
      IsUnavailable failure .scrape state
        (state.respond ⟨"GET".toList, metricsTarget, .error failure⟩) ∧
      IsUnavailable failure .inspect state
        (state.respond ⟨"GET".toList, nodesTarget, .error failure⟩) ∧
      ∀ cycle : Cycle,
        let collected := state.collect cycle (.error failure)
        IsFailedCycle failure cycle state collected.state collected.events) ∧
    (∀ (command : Text) (run : Query.Run) (listing : Octets),
      (fetch command run).listing = .ok listing ↔ ∃ errors, run = .ended (some 0) listing errors) ∧
    ∀ (state : State) (command : Text) (first second : List Errand),
      List.Forall₂ Errand.Alike first second →
      state.obeyAll command first = state.obeyAll command second := by
  refine ⟨?_, ?_, ?_, ?_, ?_⟩
  · intro first second listing one two nodePart
    have firstBody := body_respond_metrics isMetrics first listing
    have secondBody := body_respond_metrics isMetrics second listing
    exact ⟨status_respond_metrics isMetrics first listing,
      status_respond_metrics isMetrics second listing, firstBody, secondBody⟩
  · intro first second listing one two
    have firstServed : one.response = .nodes (survey listing) :=
      respond_nodes isNodes first listing
    have secondServed : two.response = .nodes (survey listing) :=
      respond_nodes isNodes second listing
    rw [firstServed, secondServed]
    exact ⟨rfl, rfl⟩
  · intro state failure
    refine ⟨?_, ?_, ?_⟩
    · exact isUnavailable_respond isMetrics rfl state failure
    · exact isUnavailable_respond isNodes rfl state failure
    · intro cycle
      exact isFailedCycle_collect state cycle failure
  · intro command run listing
    exact Query.listing_fetch_eq_ok_iff
  · intro state command first second alike
    exact obeyAll_eq_of_alike alike state command

/-- An exporter that must stop and one that has done nothing, with a listing, with a failure, and
with a command that writes a row before a signal ends it. -/
theorem supply_decides_answers_signal :
    let failure : Failure := .badEnding "sinfo".toList none "down".toList
    let row : Octets := Text.utf8 "a 0 8 0/2/0/2 idle (null) (null)".toList
    let stopped := (State.start true).run [.collect .scrape (.error failure)]
    let nodes (state : State) := state.respond ⟨"GET".toList, "/nodes?all".toList, .ok row⟩
    let cut (output : Octets) : List Errand :=
      [.request "GET".toList "/metrics".toList (.ended none output (Text.utf8 "down\n".toList)),
       .collect .inspect (.ended (some 0) row [])]
    Route.ofTarget? "/metrics".toList = some .metrics ∧
      Route.ofTarget? "/nodes?all".toList = some .nodes ∧
      (nodes stopped).response = (nodes (State.start false)).response ∧
      IsUnavailable failure .scrape stopped
        (stopped.respond ⟨"GET".toList, "/metrics".toList, .error failure⟩) ∧
      List.Forall₂ Errand.Alike (cut row) (cut []) ∧
      stopped.obeyAll "sinfo".toList (cut row) = stopped.obeyAll "sinfo".toList (cut []) := by
  intro failure row stopped nodes cut
  have isMetrics : Route.ofTarget? "/metrics".toList = some .metrics := by decide
  have isNodes : Route.ofTarget? "/nodes?all".toList = some .nodes := by decide
  have alike : List.Forall₂ Errand.Alike (cut row) (cut []) :=
    .cons (.request _ _ (.unheard (by decide) _ _ _)) (.cons (.collect _ (.same _)) .nil)
  obtain ⟨-, published, unavailable, -, unheard⟩ := supply_decides_answers isMetrics isNodes
  exact ⟨isMetrics, isNodes, (published stopped (State.start false) row).2,
    (unavailable stopped failure).1, alike, unheard stopped "sinfo".toList _ _ alike⟩

end NodeGauge.Exporter
