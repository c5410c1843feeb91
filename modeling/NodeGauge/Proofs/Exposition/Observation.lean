/-
Module: NodeGauge.Proofs.Exposition.Observation
Purpose: What a roster shows of each gauge.  A node has at most one observation of a gauge that is
  kept for the whole node, and one for each of its GPUs of the gauge that is kept for GPUs.
Main exports: Exposition.observeRecord_eq, Exposition.filter_observeRecord,
  Exposition.length_filter_observeNode_le, Exposition.keys_of_mem_observe
-/
import NodeGauge.Exposition.Observation

namespace NodeGauge.Exposition

open Node (Record Roster GpuSection)

/-- The observations of a node as a whole. -/
def observeNode (r : Record) : List Observation :=
  [⟨.cpuAllocated, nodeLabels r, r.cpu.allocated.toNat⟩,
   ⟨.cpuIdle, nodeLabels r, r.cpu.idle.toNat⟩,
   ⟨.cpuOther, nodeLabels r, r.cpu.other.toNat⟩,
   ⟨.cpuTotal, nodeLabels r, r.cpu.total.toNat⟩,
   ⟨.memoryAllocated, nodeLabels r, r.memory.allocated.toNat⟩,
   ⟨.memoryTotal, nodeLabels r, r.memory.total.toNat⟩] ++
    match r.gpu with
    | none => []
    | some gpu =>
        [⟨.gpuAllocatedCount, nodeLabels r, gpu.allocatedCount.toNat⟩,
         ⟨.gpuIdle, nodeLabels r, gpu.idle⟩,
         ⟨.gpuTotal, nodeLabels r, gpu.total⟩]

/-- The observation of one GPU of a node. -/
def observeOne (r : Record) (gpu : GpuSection) (bit : Bool × Nat) : Observation :=
  ⟨.gpuAllocated, gpuLabels r gpu bit.2, bit.1.toNat⟩

/-- The observations of a node's GPUs, one for each. -/
def observeEach (r : Record) : List Observation :=
  match r.gpu with
  | none => []
  | some gpu => gpu.bitmap.zipIdx.map (observeOne r gpu)

theorem observeRecord_eq (r : Record) : observeRecord r = observeNode r ++ observeEach r := by
  cases present : r.gpu with
  | none => simp [observeRecord, observeNode, observeEach, present]
  | some gpu =>
      simp only [observeRecord, observeNode, observeEach, observeGpu, present, List.append_assoc]
      rfl

theorem gauge_labels_of_mem_observeEach {r : Record} :
    ∀ o ∈ observeEach r, o.gauge = .gpuAllocated ∧
      ∃ gpu index, o.labels = gpuLabels r gpu index := by
  intro o member
  cases present : r.gpu with
  | none => simp [observeEach, present] at member
  | some gpu =>
      simp only [observeEach, present] at member
      obtain ⟨bit, -, rfl⟩ := List.mem_map.1 member
      exact ⟨rfl, gpu, bit.2, rfl⟩

theorem gauge_labels_of_mem_observeNode {r : Record} :
    ∀ o ∈ observeNode r, o.gauge ≠ .gpuAllocated ∧ o.labels = nodeLabels r := by
  cases present : r.gpu with
  | none => simp [observeNode, present]
  | some gpu => simp [observeNode, present]

theorem filter_observeRecord (r : Record) (g : Gauge) :
    (observeRecord r).filter (·.gauge = g) =
      if g = .gpuAllocated then observeEach r else (observeNode r).filter (·.gauge = g) := by
  rw [observeRecord_eq, List.filter_append]
  split
  · next same =>
      have noneOfNode : (observeNode r).filter (·.gauge = g) = [] := by
        apply List.filter_eq_nil_iff.2
        intro o member
        simp [(gauge_labels_of_mem_observeNode o member).1, same]
      have allOfEach : (observeEach r).filter (·.gauge = g) = observeEach r := by
        apply List.filter_eq_self.2
        intro o member
        simp [(gauge_labels_of_mem_observeEach o member).1, same]
      rw [noneOfNode, allOfEach, List.nil_append]
  · next other =>
      have noneOfEach : (observeEach r).filter (·.gauge = g) = [] := by
        apply List.filter_eq_nil_iff.2
        intro o member
        simp [(gauge_labels_of_mem_observeEach o member).1, Ne.symm other]
      rw [noneOfEach, List.append_nil]

theorem length_filter_observeNode_le (r : Record) (g : Gauge) :
    ((observeNode r).filter (·.gauge = g)).length ≤ 1 := by
  cases present : r.gpu with
  | none => cases g <;> simp [observeNode, present]
  | some gpu => cases g <;> simp [observeNode, present]

theorem filter_observe (roster : Roster) (g : Gauge) :
    (observe roster).filter (·.gauge = g) =
      roster.records.flatMap fun r => (observeRecord r).filter (·.gauge = g) := by
  rw [observe, List.filter_flatMap]

/-- The keys of the labels of a node. -/
def nodeKeys : List Text := ["node".toList, "status".toList]

/-- The keys of the labels of a GPU. -/
def gpuKeys : List Text := ["node".toList, "gpu_type".toList, "index".toList]

theorem keys_of_mem_observe {roster : Roster} :
    ∀ o ∈ observe roster, o.labels.map Label.key = nodeKeys ∨ o.labels.map Label.key = gpuKeys := by
  intro o member
  obtain ⟨r, -, inRecord⟩ := List.mem_flatMap.1 member
  rw [observeRecord_eq] at inRecord
  rcases List.mem_append.1 inRecord with whole | each
  · left
    rw [(gauge_labels_of_mem_observeNode o whole).2]
    rfl
  · right
    obtain ⟨-, gpu, index, labels⟩ := gauge_labels_of_mem_observeEach o each
    rw [labels]
    rfl

end NodeGauge.Exposition
