/-
Module: NodeGauge.Exporter.Counters
Purpose: What the exporter counts of its own work, and the page that shows it.
Main exports: Exporter.Counters, Exporter.Counters.page
-/
import NodeGauge.Exposition.Page

namespace NodeGauge.Exporter

open Exposition (Family Kind Page)

/-- The exporter's own numbers.  All but the last only grow, and start again from zero after the
greatest 64-bit number. -/
structure Counters where
  /-- Collection cycles started for a scrape. -/
  scrapes : UInt64
  /-- Those of them that failed. -/
  failures : UInt64
  /-- Rows skipped because they could not be read. -/
  decodeErrors : UInt64
  /-- Names seen on more than one row. -/
  conflicts : UInt64
  /-- Nodes in the last scrape that succeeded. -/
  nodes : UInt64
deriving Repr, DecidableEq

namespace Counters

/-- The counters of an exporter that has done nothing. -/
def zero : Counters := ⟨0, 0, 0, 0, 0⟩

/-- A family with one value and no labels. -/
def single (name help : String) (kind : Kind) (value : UInt64) : Family :=
  ⟨name.toList, help.toList, kind, [⟨none, value.toNat⟩]⟩

/-- The page that shows the counters. -/
def page (c : Counters) : Page :=
  [single "slurm_exporter_scrapes_total" "Collection cycles started." .counter c.scrapes,
   single "slurm_exporter_scrape_failures_total"
     "Collection cycles aborted because sinfo failed." .counter c.failures,
   single "slurm_exporter_decode_errors_total"
     "sinfo rows skipped because they could not be decoded." .counter c.decodeErrors,
   single "slurm_exporter_duplicate_conflicts_total"
     "Node names reported on more than one distinct sinfo row." .counter c.conflicts,
   single "slurm_exporter_nodes"
     "Nodes published by the last successful collection cycle." .gauge c.nodes]

end Counters

end NodeGauge.Exporter
