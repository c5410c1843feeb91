/-
Module: NodeGauge.Exposition.Observation
Purpose: The gauges that are kept for each node, and what they show for a roster.
Main exports: Exposition.Gauge, Exposition.Observation, Exposition.observeRecord,
  Exposition.observe, Exposition.families
-/
import NodeGauge.Exposition.Page
import NodeGauge.Node.Roster

namespace NodeGauge.Exposition

open Node (Record Roster GpuSection)

/-- The gauges that are kept for each node. -/
inductive Gauge where
  | cpuAllocated
  | cpuIdle
  | cpuOther
  | cpuTotal
  | memoryAllocated
  | memoryTotal
  | gpuAllocated
  | gpuAllocatedCount
  | gpuIdle
  | gpuTotal
deriving Repr, DecidableEq

namespace Gauge

/-- Every gauge, in the order in which pages show them. -/
def all : List Gauge :=
  [cpuAllocated, cpuIdle, cpuOther, cpuTotal, memoryAllocated, memoryTotal, gpuAllocated,
   gpuAllocatedCount, gpuIdle, gpuTotal]

/-- No gauge is left out. -/
theorem mem_all (g : Gauge) : g ∈ all := by cases g <;> decide

/-- The name under which a gauge is published. -/
def name : Gauge → Text
  | cpuAllocated => "slurm_node_cpu_alloc".toList
  | cpuIdle => "slurm_node_cpu_idle".toList
  | cpuOther => "slurm_node_cpu_other".toList
  | cpuTotal => "slurm_node_cpu_total".toList
  | memoryAllocated => "slurm_node_mem_alloc".toList
  | memoryTotal => "slurm_node_mem_total".toList
  | gpuAllocated => "slurm_node_gpu_alloc".toList
  | gpuAllocatedCount => "slurm_node_gpu_alloc_count".toList
  | gpuIdle => "slurm_node_gpu_idle".toList
  | gpuTotal => "slurm_node_gpu_total".toList

/-- What a gauge means. -/
def help : Gauge → Text
  | cpuAllocated => "Allocated CPUs per node".toList
  | cpuIdle => "Idle CPUs per node".toList
  | cpuOther => "Other CPUs per node".toList
  | cpuTotal => "Total CPUs per node".toList
  | memoryAllocated => "Allocated memory per node".toList
  | memoryTotal => "Total memory per node".toList
  | gpuAllocated => "Allocation state of each GPU index (1 = allocated)".toList
  | gpuAllocatedCount => "Allocated GPUs per node as reported by the scheduler".toList
  | gpuIdle => "Idle GPUs per node".toList
  | gpuTotal => "Total GPUs per node".toList

end Gauge

/-- One value of one gauge, and what it is a value of. -/
structure Observation where
  gauge : Gauge
  labels : List Label
  value : Nat
deriving Repr, DecidableEq

/-- The labels of the gauges that have one value for each node. -/
def nodeLabels (r : Record) : List Label :=
  [⟨"node".toList, r.name⟩, ⟨"status".toList, r.status⟩]

/-- The labels of one GPU of a node. -/
def gpuLabels (r : Record) (gpu : GpuSection) (index : Nat) : List Label :=
  [⟨"node".toList, r.name⟩, ⟨"gpu_type".toList, gpu.gpuType⟩,
   ⟨"index".toList, Numeral.ofNat index⟩]

/-- The values of a node's GPUs: three for the node and one for each GPU. -/
def observeGpu (r : Record) (gpu : GpuSection) : List Observation :=
  [⟨.gpuAllocatedCount, nodeLabels r, gpu.allocatedCount.toNat⟩,
   ⟨.gpuIdle, nodeLabels r, gpu.idle⟩,
   ⟨.gpuTotal, nodeLabels r, gpu.total⟩] ++
    gpu.bitmap.zipIdx.map fun (allocated, index) =>
      ⟨.gpuAllocated, gpuLabels r gpu index, allocated.toNat⟩

/-- The values of a node.  A node without GPUs has none for its GPUs. -/
def observeRecord (r : Record) : List Observation :=
  [⟨.cpuAllocated, nodeLabels r, r.cpu.allocated.toNat⟩,
   ⟨.cpuIdle, nodeLabels r, r.cpu.idle.toNat⟩,
   ⟨.cpuOther, nodeLabels r, r.cpu.other.toNat⟩,
   ⟨.cpuTotal, nodeLabels r, r.cpu.total.toNat⟩,
   ⟨.memoryAllocated, nodeLabels r, r.memory.allocated.toNat⟩,
   ⟨.memoryTotal, nodeLabels r, r.memory.total.toNat⟩] ++
    match r.gpu with
    | none => []
    | some gpu => observeGpu r gpu

/-- The values of all nodes, node by node in the order of their names. -/
def observe (roster : Roster) : List Observation := roster.records.flatMap observeRecord

/-- The family of a gauge: its observations in the order given, or no family without any. -/
def family? (observations : List Observation) (g : Gauge) : Option Family :=
  let own := observations.filter (·.gauge = g)
  if own.isEmpty then none
  else some ⟨g.name, g.help, .gauge, own.map fun o => ⟨some o.labels, o.value⟩⟩

/-- The page of some observations, family by family. -/
def families (observations : List Observation) : Page :=
  Gauge.all.filterMap (family? observations)

end NodeGauge.Exposition
