/-
Module: NodeGauge.Exporter.Cycle
Purpose: Collection cycles: what a query's result does to the exporter's counters, to its log and
  to the signal that stops it.
Main exports: Exporter.Cycle, Exporter.State, Exporter.State.start, Exporter.Collected,
  Exporter.State.collect
-/
import NodeGauge.Exporter.Counters
import NodeGauge.Listing.Survey
import NodeGauge.Log.Event
import NodeGauge.Query.Failure

namespace NodeGauge.Exporter

open Listing (Survey)
open Log (Event)
open Query (Failure)

/-- What a collection cycle is for.  Only scrapes are counted. -/
inductive Cycle where
  | scrape
  | inspect
deriving Repr, DecidableEq

/-- The word for a cycle in the log. -/
def Cycle.word : Cycle → Text
  | scrape => "Scrape".toList
  | inspect => "Inspect".toList

/-- The memory of an exporter between two cycles. -/
structure State where
  /-- Whether a failure of the query stops the exporter. -/
  exitOnFailure : Bool
  counters : Counters
  /-- Why the exporter must stop, if it must. -/
  fatal : Option Text
deriving Repr, DecidableEq

/-- An exporter that has done nothing. -/
def State.start (exitOnFailure : Bool) : State := ⟨exitOnFailure, .zero, none⟩

namespace Counters

/-- A scrape whose query failed. -/
def addFailure (c : Counters) : Counters :=
  { c with scrapes := c.scrapes + 1, failures := c.failures + 1 }

/-- A scrape whose query gave a listing that says this. -/
def addSurvey (c : Counters) (survey : Survey) : Counters :=
  { c with
    scrapes := c.scrapes + 1
    decodeErrors := c.decodeErrors + UInt64.ofNat survey.rejected.length
    conflicts := c.conflicts + UInt64.ofNat survey.conflicts.length
    nodes := UInt64.ofNat survey.roster.size }

end Counters

/-- Where the events of a cycle come from. -/
def target : Text := "slurm_exporter::collector".toList

/-- The event of a failed query. -/
def failureEvent (failure : Failure) : Event where
  level := .error
  target := target
  message := "node source failed, no metrics published this cycle".toList
  fields := [("error".toList, .plain failure.message)]

/-- The event of a row that cannot be read. -/
def rejectionEvent (r : Listing.Rejection) : Event where
  level := .warn
  target := target
  message := "skipping undecodable sinfo row".toList
  fields := [("line".toList, .plain r.line), ("error".toList, .plain r.fault.message)]

/-- The event of a node with conflicting rows. -/
def conflictEvent (name : Text) : Event where
  level := .warn
  target := target
  message := "node reported on conflicting sinfo rows, keeping first".toList
  fields := [("node".toList, .plain name)]

/-- The event of a finished cycle. -/
def finishedEvent (cycle : Cycle) (survey : Survey) : Event where
  level := .debug
  target := target
  message := "collection cycle finished".toList
  fields :=
    [("nodes".toList, .number survey.roster.size),
     ("rejected".toList, .number survey.rejected.length),
     ("cycle".toList, .plain cycle.word)]

/-- The events of a cycle whose listing says this: each rejected row, each conflict, and the
end. -/
def surveyEvents (cycle : Cycle) (survey : Survey) : List Event :=
  survey.rejected.map rejectionEvent ++ survey.conflicts.map conflictEvent ++
    [finishedEvent cycle survey]

/-- What a cycle leaves behind. -/
structure Collected where
  state : State
  result : Except Failure Survey
  events : List Event

/-- Run one cycle on what the query gave. -/
def State.collect (state : State) (cycle : Cycle) : Except Failure Octets → Collected
  | .error failure =>
      { state :=
          { state with
            counters := match cycle with
              | .scrape => state.counters.addFailure
              | .inspect => state.counters
            fatal := if state.exitOnFailure then some failure.message else state.fatal }
        result := .error failure
        events := [failureEvent failure] }
  | .ok listing =>
      let survey := Listing.survey listing
      { state :=
          { state with
            counters := match cycle with
              | .scrape => state.counters.addSurvey survey
              | .inspect => state.counters }
        result := .ok survey
        events := surveyEvents cycle survey }

end NodeGauge.Exporter
