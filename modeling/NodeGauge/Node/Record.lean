/-
Module: NodeGauge.Node.Record
Purpose: What is known of one node: its state, its processors, its memory and its GPUs.
Main exports: Node.CpuCounts, Node.MemoryCounts, Node.GpuSection, Node.Record
-/
import NodeGauge.Gres.IndexList

namespace NodeGauge.Node

open Gres (Bitmap)

/-- The processors of a node by use. -/
structure CpuCounts where
  allocated : UInt64
  idle : UInt64
  other : UInt64
  total : UInt64
deriving Repr, DecidableEq

/-- The memory of a node, in use and in all. -/
structure MemoryCounts where
  allocated : UInt64
  total : UInt64
deriving Repr, DecidableEq

/-- The GPUs of a node.  The count is the one that the scheduler reports, which need not agree
with the bitmap. -/
structure GpuSection where
  gpuType : Text
  allocatedCount : UInt64
  bitmap : Bitmap
deriving Repr, DecidableEq

namespace GpuSection

/-- How many GPUs the node has. -/
def total (gpu : GpuSection) : Nat := gpu.bitmap.length

/-- How many GPUs are idle by the reported count: none if more are reported than there are. -/
def idle (gpu : GpuSection) : Nat := gpu.total - gpu.allocatedCount.toNat

/-- The indices of the GPUs in use, in ascending order. -/
def allocatedIndices (gpu : GpuSection) : List Nat :=
  gpu.bitmap.zipIdx.filterMap fun (allocated, index) => if allocated then some index else none

end GpuSection

/-- One node of the cluster. -/
structure Record where
  name : Text
  status : Text
  cpu : CpuCounts
  memory : MemoryCounts
  gpu : Option GpuSection
deriving Repr, DecidableEq

end NodeGauge.Node
