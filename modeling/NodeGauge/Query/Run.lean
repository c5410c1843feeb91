/-
Module: NodeGauge.Query.Run
Purpose: One run of the command that lists the nodes, and what becomes of it.
Main exports: Query.Run, Query.arguments, Query.Fetched, Query.fetch
-/
import NodeGauge.Listing.Row
import NodeGauge.Log.Event
import NodeGauge.Query.Failure
import NodeGauge.Text.Utf8

namespace NodeGauge.Query

/-- What happened when a command was run. -/
inductive Run where
  /-- It was not started. -/
  | notStarted (cause : Text)
  /-- It ran and ended, with an exit code unless a signal ended it. -/
  | ended (code : Option Int) (output errors : Octets)
deriving Repr, DecidableEq

/-- The arguments of the query: no heading, one row for each node, and the columns of a row. -/
def arguments : List Text :=
  ["-h".toList, "-N".toList, "-O".toList, Listing.format]

/-- What a query gives: the listing or the reason for which there is none, and what it reports. -/
structure Fetched where
  listing : Except Failure Octets
  events : List Log.Event

/-- What becomes of a run of the command.  Its output is the listing if it exits with code zero,
and is dropped otherwise. -/
def fetch (command : Text) : Run → Fetched
  | .notStarted cause => ⟨.error (.notStarted command cause), []⟩
  | .ended (some 0) output _ =>
      ⟨.ok output,
       [{ level := .debug
          target := "slurm_exporter::source".toList
          message := "sinfo finished".toList
          fields := [("bin".toList, .plain command), ("bytes".toList, .number output.length)] }]⟩
  | .ended code _ errors => ⟨.error (.badEnding command code errors.decode.trim), []⟩

end NodeGauge.Query
