/-
Module: NodeGauge.Listing.Row
Purpose: One row of the node listing, split into its columns and decoded into a record.
Main exports: Listing.format, Listing.Row, Listing.Row.ofLine, Listing.Row.decode,
  Listing.readLine
-/
import NodeGauge.Gres.Descriptor
import NodeGauge.Listing.Fault
import NodeGauge.Node.Record
import NodeGauge.Text.Blank

namespace NodeGauge.Listing

open Gres (Descriptor)
open Node (CpuCounts MemoryCounts GpuSection Record)

/-- The columns that are asked of the scheduler, in the order in which a row holds them. -/
def format : Text :=
  "NodeList,AllocMem,Memory,CPUsState,StateLong,Gres,GresUsed:.".toList

/-- The columns of one row. -/
structure Row where
  name : Text
  memoryAllocated : Text
  memoryTotal : Text
  cpu : Text
  status : Text
  gres : Text
  gresUsed : Text
deriving Repr, DecidableEq

namespace Row

/-- Split a line into its words, one for each column. -/
def ofLine (line : Text) : Except Fault Row :=
  match line.words with
  | [name, memoryAllocated, memoryTotal, cpu, status, gres, gresUsed] =>
      .ok ⟨name, memoryAllocated, memoryTotal, cpu, status, gres, gresUsed⟩
  | words => .error (.wrongColumnCount words.length)

/-- Read a number of the row. -/
def readNumber (field : NumberField) (raw : Text) : Except Fault UInt64 :=
  match Numeral.read? raw with
  | some n => .ok n
  | none => .error (.notNumber field raw)

/-- Read the processor column: allocated, idle, other and total, with slashes between. -/
def readCpu (raw : Text) : Except Fault CpuCounts :=
  match raw.splitOn '/' with
  | [allocated, idle, other, total] =>
      return {
        allocated := ← readNumber .cpuAllocated allocated
        idle := ← readNumber .cpuIdle idle
        other := ← readNumber .cpuOther other
        total := ← readNumber .cpuTotal total }
  | _ => .error (.malformedCpu raw)

/-- Read the two resource columns of a node with GPUs.  The number of devices comes from the first,
their type, the reported count and the list of those in use from the second. -/
def readGpu (gres gresUsed : Text) : Except Gres.Fault GpuSection := do
  let all ← Descriptor.read gres
  let used ← Descriptor.read gresUsed
  match used.indexList? with
  | none => .error (.noIndexList gresUsed)
  | some list => return ⟨used.gpuType, used.count, ← Gres.readIndexList list all.count⟩

/-- Read the resource columns.  A node without resources has no GPUs, whatever the second column
holds. -/
def readResources (gres gresUsed : Text) : Except Fault (Option GpuSection) :=
  if gres = Gres.noResource then .ok none
  else match readGpu gres gresUsed with
    | .ok gpu => .ok (some gpu)
    | .error fault => .error (.gres fault)

/-- The record of a row.  The columns are read in a fixed order, and the first that cannot be read
decides the fault. -/
def decode (row : Row) : Except Fault Record := do
  let cpu ← readCpu row.cpu
  let allocated ← readNumber .memoryAllocated row.memoryAllocated
  let total ← readNumber .memoryTotal row.memoryTotal
  let gpu ← readResources row.gres row.gresUsed
  return ⟨row.name, row.status, cpu, ⟨allocated, total⟩, gpu⟩

end Row

/-- The record that a line of the listing gives. -/
def readLine (line : Text) : Except Fault Record := do
  let row ← Row.ofLine line
  row.decode

end NodeGauge.Listing
