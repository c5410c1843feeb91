/-
Module: NodeGauge.Proofs.Exposition.Validity
Purpose: What a scraper asks of a page: each metric in one block, and no series shown twice.  The
  page of a roster's observations has such blocks, and shows the nodes in ascending order.
Main exports: Exposition.Block, Exposition.SameSeries, Exposition.IsExposition,
  Exposition.IsExposition.unique, Exposition.IsAscending, Exposition.Block.IsOrdered,
  Exposition.isExposition_render
-/
import NodeGauge.Proofs.Exposition.ReadBack
import NodeGauge.Proofs.Text.Order

namespace NodeGauge.Exposition

open Node (Record Roster GpuSection)

/-! ### Blocks and series -/

/-- What stands together on a page about one metric. -/
structure Block where
  metric : Text
  help : Text
  kind : Kind
  samples : List Reading

/-- The lines of a block: one that says what the metric means, one that says how it behaves, and
its samples. -/
def Block.lines (b : Block) : List Line :=
  .help b.metric b.help :: .type b.metric b.kind :: b.samples.map .sample

/-- Two samples of one series: their metric is the same, and so is the set of their labels. -/
def SameSeries (a b : Reading) : Prop :=
  a.metric = b.metric ∧ ∀ l, l ∈ a.labels ↔ l ∈ b.labels

/-- The text is a page that shows these blocks. -/
structure IsExposition (text : Text) (blocks : List Block) : Prop where
  /-- Each line ends in a line feed, and the lines are those of the blocks. -/
  lines : readPage text = some (blocks.flatMap Block.lines)
  /-- No metric has two blocks. -/
  distinct : (blocks.map Block.metric).Nodup
  full : ∀ b ∈ blocks, b.samples ≠ []
  own : ∀ b ∈ blocks, ∀ s ∈ b.samples, s.metric = b.metric
  /-- No sample sets a label twice. -/
  keys : ∀ b ∈ blocks, ∀ s ∈ b.samples, (s.labels.map Label.key).Nodup
  /-- No series is shown twice. -/
  series : (blocks.flatMap Block.samples).Pairwise fun a b => ¬SameSeries a b

/-- Whether a line shows a sample. -/
def Line.isSample : Line → Bool
  | .sample _ => true
  | _ => false

/-- Lines tell the blocks that they are the lines of: each block starts at a line that says what its
metric means, and its samples end there. -/
theorem Block.eq_of_flatMap_lines_eq {blocks others : List Block}
    (same : blocks.flatMap lines = others.flatMap lines) : blocks = others := by
  have samplesOnly (b : Block) : ∀ l ∈ b.samples.map Line.sample, l.isSample = true := by
    intro l member
    obtain ⟨s, -, rfl⟩ := List.mem_map.1 member
    rfl
  have stops (rest : List Block) :
      ∀ l, (rest.flatMap lines).head? = some l → l.isSample = false := by
    intro l first
    cases rest with
    | nil => simp at first
    | cons b rest =>
        obtain rfl := Option.some.inj first
        rfl
  induction blocks generalizing others with
  | nil =>
      cases others with
      | nil => rfl
      | cons o others => simp [lines] at same
  | cons b blocks ih =>
      cases others with
      | nil => simp [lines] at same
      | cons o others =>
          rw [List.flatMap_cons, List.flatMap_cons, lines, lines] at same
          simp only [List.cons_append, List.cons.injEq, Line.help.injEq, Line.type.injEq] at same
          obtain ⟨⟨metric, help⟩, ⟨-, kind⟩, behind⟩ := same
          obtain ⟨samples, rest⟩ := Text.append_inj_of_class (samplesOnly b) (samplesOnly o)
            (stops blocks) (stops others) behind
          have sample_injective : Function.Injective Line.sample := fun _ _ => Line.sample.inj
          have sameSamples : b.samples = o.samples := sample_injective.list_map samples
          have first : b = o := by
            cases b
            cases o
            rw [Block.mk.injEq]
            exact ⟨metric, help, kind, sameSamples⟩
          rw [first, ih rest]

/-- A text is the page of one list of blocks at most. -/
theorem IsExposition.unique {text : Text} {blocks others : List Block}
    (one : IsExposition text blocks) (two : IsExposition text others) : blocks = others :=
  Block.eq_of_flatMap_lines_eq (Option.some.inj (one.lines.symm.trans two.lines))

/-- The block that a reader sees of a family. -/
def Family.block (f : Family) : Block := ⟨f.name, f.help, f.kind, f.readings⟩

theorem Family.lines_block (f : Family) : f.block.lines = f.lines := by
  simp [Family.block, Block.lines, Family.lines, Family.readings]

/-! ### Labels of a sample -/

/-- The value of a label. -/
def Reading.label? (r : Reading) (key : Text) : Option Text :=
  (r.labels.find? (·.key = key)).map Label.value

theorem Reading.label?_eq_some_iff {r : Reading} (keys : (r.labels.map Label.key).Nodup)
    {key value : Text} : r.label? key = some value ↔ ⟨key, value⟩ ∈ r.labels := by
  obtain ⟨metric, labels, number⟩ := r
  simp only [Reading.label?]
  induction labels with
  | nil => simp
  | cons l labels ih =>
      obtain ⟨first, distinct⟩ := List.nodup_cons.1 keys
      by_cases here : l.key = key
      · have later : (⟨key, value⟩ : Label) ∉ labels := by
          intro member
          exact first (List.mem_map.2 ⟨_, member, here.symm⟩)
        obtain ⟨k, v⟩ := l
        simp_all [eq_comm]
      · have other : (⟨key, value⟩ : Label) ≠ l := by
          rintro rfl
          exact here rfl
        rw [List.find?_cons_of_neg (by simpa using here), ih distinct, List.mem_cons]
        exact ⟨Or.inr, fun either => either.resolve_left other⟩

/-! ### Places in order -/

/-- The node that a sample is about. -/
def Reading.node? (r : Reading) : Option Text := r.label? "node".toList

/-- The number that a sample shows as its index. -/
def Reading.index? (r : Reading) : Option Nat :=
  (r.label? "index".toList).bind fun digits =>
    if !digits.isEmpty && digits.all Numeral.isDigit then some (Numeral.value digits) else none

/-- The GPU that a sample is about: its node and its index. -/
def Reading.gpu? (r : Reading) : Option (Text × Nat) := do
  let node ← r.node?
  let index ← r.index?
  some (node, index)

/-- Nodes are ordered by the octets of their names. -/
def NodeBefore (m n : Text) : Prop := m.utf8 < n.utf8

/-- GPUs are ordered by their nodes, and by number within a node. -/
def GpuBefore (p q : Text × Nat) : Prop := NodeBefore p.1 q.1 ∨ p.1 = q.1 ∧ p.2 < q.2

/-- Every sample has a place, and each place comes before all later ones. -/
def IsAscending {α : Type} (place? : Reading → Option α) (before : α → α → Prop)
    (samples : List Reading) : Prop :=
  ∃ places : List α, samples.map place? = places.map some ∧ places.Pairwise before

/-- The samples of a gauge's block are in ascending order. -/
structure Block.IsOrdered (b : Block) : Prop where
  byNode : ∀ g : Gauge, g ≠ .gpuAllocated → b.metric = g.name →
    IsAscending Reading.node? NodeBefore b.samples
  byGpu : b.metric = Gauge.gpuAllocated.name → IsAscending Reading.gpu? GpuBefore b.samples

theorem not_nodeBefore_self (m : Text) : ¬NodeBefore m m := List.lt_irrefl _

theorem not_gpuBefore_self (p : Text × Nat) : ¬GpuBefore p p := by
  rintro (before | ⟨-, less⟩)
  · exact not_nodeBefore_self p.1 before
  · exact Nat.lt_irrefl _ less

section

variable {a b : Reading} (same : SameSeries a b) (keysA : (a.labels.map Label.key).Nodup)
  (keysB : (b.labels.map Label.key).Nodup)

include same keysA keysB

theorem label?_eq_of_sameSeries (key : Text) : a.label? key = b.label? key := by
  apply Option.ext
  intro value
  rw [Reading.label?_eq_some_iff keysA, Reading.label?_eq_some_iff keysB, same.2]

theorem node?_eq_of_sameSeries : a.node? = b.node? :=
  label?_eq_of_sameSeries same keysA keysB _

theorem gpu?_eq_of_sameSeries : a.gpu? = b.gpu? := by
  have node := node?_eq_of_sameSeries same keysA keysB
  have index := label?_eq_of_sameSeries same keysA keysB "index".toList
  rw [Reading.gpu?, Reading.gpu?, Reading.index?, Reading.index?, node, index]

end

/-- Samples in strictly ascending order are of different series. -/
theorem pairwise_of_isAscending {α : Type} {place? : Reading → Option α} {before : α → α → Prop}
    {samples : List Reading} (ascending : IsAscending place? before samples)
    (irrefl : ∀ p, ¬before p p)
    (known : ∀ a ∈ samples, ∀ b ∈ samples, SameSeries a b → place? a = place? b) :
    samples.Pairwise fun a b => ¬SameSeries a b := by
  obtain ⟨places, shown, sorted⟩ := ascending
  have different : (samples.map place?).Pairwise (· ≠ ·) := by
    rw [shown, List.pairwise_map]
    apply sorted.imp
    intro p q before same
    obtain rfl := Option.some.inj same
    exact irrefl p before
  apply (List.pairwise_map.1 different).imp_of_mem
  intro a b inA inB apart same
  exact apart (known a inA b inB same)

/-! ### Pages of families -/

/-- A family of which a page can show a block. -/
structure Family.IsPublishable (f : Family) : Prop where
  readable : f.IsReadable
  full : f.samples ≠ []
  keys : ∀ s ∈ f.readings, (s.labels.map Label.key).Nodup
  series : f.readings.Pairwise fun a b => ¬SameSeries a b

theorem Family.metric_of_mem_readings {f : Family} {s : Reading} (member : s ∈ f.readings) :
    s.metric = f.name := by
  obtain ⟨_, -, rfl⟩ := List.mem_map.1 member
  rfl

theorem isExposition_render {page : Page} (publishable : ∀ f ∈ page, f.IsPublishable)
    (distinct : (page.map Family.name).Nodup) :
    IsExposition page.render (page.map Family.block) where
  lines := by
    rw [readPage_render fun f member => (publishable f member).readable, List.flatMap_map,
      funext Family.lines_block]
  distinct := by
    rw [List.map_map]
    exact distinct
  full := by
    intro b member
    obtain ⟨f, among, rfl⟩ := List.mem_map.1 member
    simpa [Family.block, Family.readings] using (publishable f among).full
  own := by
    intro b member s inBlock
    obtain ⟨f, -, rfl⟩ := List.mem_map.1 member
    exact Family.metric_of_mem_readings inBlock
  keys := by
    intro b member
    obtain ⟨f, among, rfl⟩ := List.mem_map.1 member
    exact (publishable f among).keys
  series := by
    rw [List.flatMap_map, List.pairwise_flatMap]
    constructor
    · intro f member
      exact (publishable f member).series
    -- Samples of different families differ in their metric already.
    · apply (List.pairwise_map.1 distinct).imp
      intro f g apart a inA b inB same
      apply apart
      rw [← Family.metric_of_mem_readings inA, ← Family.metric_of_mem_readings inB, same.1]

/-! ### Pages of rosters -/

/-- What a reader sees of one gauge of a roster. -/
def gaugeReadings (roster : Roster) (g : Gauge) : List Reading :=
  ((observe roster).filter (·.gauge = g)).map Observation.reading

/-- The places of a roster's records ascend if they do within each record and from each record to
those of greater names. -/
theorem isAscending_flatMap {α : Type} {place? : Reading → Option α} {before : α → α → Prop}
    {part : Record → List Observation} {places : Record → List α} {roster : Roster}
    (shown : ∀ r, (part r).map (fun o => place? o.reading) = (places r).map some)
    (within : ∀ r, (places r).Pairwise before)
    (across : ∀ r s, r.name < s.name → ∀ p ∈ places r, ∀ q ∈ places s, before p q) :
    IsAscending place? before ((roster.records.flatMap part).map Observation.reading) := by
  refine ⟨roster.records.flatMap places, ?_, ?_⟩
  · rw [List.map_map, List.map_flatMap, List.map_flatMap]
    exact congrArg (roster.records.flatMap ·) (funext shown)
  · rw [List.pairwise_flatMap]
    constructor
    · intro r _
      exact within r
    · apply roster.ascending.imp
      intro r s less
      exact across r s less

/-- The places that a gauge of whole nodes shows of a record: its name, or none. -/
def nodePlaces (g : Gauge) (r : Record) : List Text :=
  ((observeNode r).filter (·.gauge = g)).map fun _ => r.name

/-- The places of a record's GPUs. -/
def gpuPlaces (r : Record) : List (Text × Nat) :=
  match r.gpu with
  | none => []
  | some gpu => gpu.bitmap.zipIdx.map fun bit => (r.name, bit.2)

theorem node?_nodeLabels {o : Observation} {r : Record} (labels : o.labels = nodeLabels r) :
    o.reading.node? = some r.name := by
  simp [Reading.node?, Reading.label?, Observation.reading, labels, nodeLabels]

theorem node?_gpuLabels {o : Observation} {r : Record} {gpu : GpuSection} {index : Nat}
    (labels : o.labels = gpuLabels r gpu index) : o.reading.node? = some r.name := by
  simp [Reading.node?, Reading.label?, Observation.reading, labels, gpuLabels]

theorem gpuType_observeOne (r : Record) (gpu : GpuSection) (bit : Bool × Nat) :
    (observeOne r gpu bit).reading.label? "gpu_type".toList = some gpu.gpuType := rfl

theorem index?_observeOne (r : Record) (gpu : GpuSection) (bit : Bool × Nat) :
    (observeOne r gpu bit).reading.index? = some bit.2 := by
  have label : (observeOne r gpu bit).reading.label? "index".toList =
      some (Numeral.ofNat bit.2) := by
    simp [Reading.label?, Observation.reading, observeOne, gpuLabels]
  have isNumeral : (!(Numeral.ofNat bit.2).isEmpty && (Numeral.ofNat bit.2).all Numeral.isDigit) =
      true := by
    rw [Numeral.all_isDigit_ofNat, Bool.and_true]
    simpa using Numeral.ofNat_ne_nil bit.2
  rw [Reading.index?, label, Option.bind_some, if_pos isNumeral, Numeral.value_ofNat]

theorem gpu?_observeOne (r : Record) (gpu : GpuSection) (bit : Bool × Nat) :
    (observeOne r gpu bit).reading.gpu? = some (r.name, bit.2) := by
  have node : (observeOne r gpu bit).reading.node? = some r.name := node?_gpuLabels rfl
  rw [Reading.gpu?, node, index?_observeOne]
  rfl

theorem eq_of_mem_nodePlaces {g : Gauge} {r : Record} {m : Text} (member : m ∈ nodePlaces g r) :
    m = r.name := by
  obtain ⟨_, -, rfl⟩ := List.mem_map.1 member
  rfl

theorem name_of_mem_gpuPlaces {r : Record} {p : Text × Nat} (member : p ∈ gpuPlaces r) :
    p.1 = r.name := by
  cases present : r.gpu with
  | none => simp [gpuPlaces, present] at member
  | some gpu =>
      simp only [gpuPlaces, present] at member
      obtain ⟨_, -, rfl⟩ := List.mem_map.1 member
      rfl

theorem isAscending_node (roster : Roster) {g : Gauge} (ofNode : g ≠ .gpuAllocated) :
    IsAscending Reading.node? NodeBefore (gaugeReadings roster g) := by
  have parts : ∀ r, (observeRecord r).filter (·.gauge = g) =
      (observeNode r).filter (·.gauge = g) := by
    intro r
    rw [filter_observeRecord, if_neg ofNode]
  have shown : ∀ r, ((observeNode r).filter (·.gauge = g)).map (fun o => o.reading.node?) =
      (nodePlaces g r).map some := by
    intro r
    rw [nodePlaces, List.map_map]
    apply List.map_congr_left
    intro o kept
    exact node?_nodeLabels (gauge_labels_of_mem_observeNode o (List.mem_filter.1 kept).1).2
  have within : ∀ r, (nodePlaces g r).Pairwise NodeBefore := by
    intro r
    have few : (nodePlaces g r).length ≤ 1 := by
      rw [nodePlaces, List.length_map]
      exact length_filter_observeNode_le r g
    match nodePlaces g r, few with
    | [], _ => exact List.Pairwise.nil
    | [m], _ => exact List.pairwise_singleton NodeBefore m
  have across : ∀ r s, r.name < s.name → ∀ m ∈ nodePlaces g r, ∀ n ∈ nodePlaces g s,
      NodeBefore m n := by
    intro r s less m inR n inS
    rw [eq_of_mem_nodePlaces inR, eq_of_mem_nodePlaces inS]
    exact Text.utf8_lt_utf8 less
  rw [gaugeReadings, filter_observe, funext parts]
  exact isAscending_flatMap shown within across

theorem isAscending_gpu (roster : Roster) :
    IsAscending Reading.gpu? GpuBefore (gaugeReadings roster .gpuAllocated) := by
  have parts : ∀ r, (observeRecord r).filter (·.gauge = .gpuAllocated) = observeEach r := by
    intro r
    rw [filter_observeRecord, if_pos rfl]
  have shown : ∀ r, (observeEach r).map (fun o => o.reading.gpu?) = (gpuPlaces r).map some := by
    intro r
    cases present : r.gpu with
    | none => simp [observeEach, gpuPlaces, present]
    | some gpu =>
        simp only [observeEach, gpuPlaces, present, List.map_map]
        apply List.map_congr_left
        intro bit _
        exact gpu?_observeOne r gpu bit
  have within : ∀ r, (gpuPlaces r).Pairwise GpuBefore := by
    intro r
    cases present : r.gpu with
    | none => simp [gpuPlaces, present]
    | some gpu =>
        have indices : (gpu.bitmap.zipIdx.map Prod.snd).Pairwise (· < ·) := by
          rw [List.zipIdx_map_snd]
          exact List.pairwise_lt_range'
        simp only [gpuPlaces, present]
        rw [List.pairwise_map] at indices ⊢
        apply indices.imp
        intro a b less
        exact Or.inr ⟨rfl, less⟩
  have across : ∀ r s, r.name < s.name → ∀ p ∈ gpuPlaces r, ∀ q ∈ gpuPlaces s,
      GpuBefore p q := by
    intro r s less p inR q inS
    left
    rw [name_of_mem_gpuPlaces inR, name_of_mem_gpuPlaces inS]
    exact Text.utf8_lt_utf8 less
  rw [gaugeReadings, filter_observe, funext parts]
  exact isAscending_flatMap shown within across

theorem keys_of_mem_gaugeReadings {roster : Roster} {g : Gauge} :
    ∀ s ∈ gaugeReadings roster g, (s.labels.map Label.key).Nodup := by
  have distinctOfNode : nodeKeys.Nodup := by decide
  have distinctOfGpu : gpuKeys.Nodup := by decide
  intro s member
  obtain ⟨o, kept, rfl⟩ := List.mem_map.1 member
  rcases keys_of_mem_observe o (List.mem_filter.1 kept).1 with keys | keys
  · exact keys ▸ distinctOfNode
  · exact keys ▸ distinctOfGpu

theorem series_gaugeReadings (roster : Roster) (g : Gauge) :
    (gaugeReadings roster g).Pairwise fun a b => ¬SameSeries a b := by
  have keys : ∀ s ∈ gaugeReadings roster g, (s.labels.map Label.key).Nodup :=
    keys_of_mem_gaugeReadings
  by_cases ofGpu : g = .gpuAllocated
  · subst ofGpu
    apply pairwise_of_isAscending (isAscending_gpu roster) not_gpuBefore_self
    intro a inA b inB same
    exact gpu?_eq_of_sameSeries same (keys a inA) (keys b inB)
  · apply pairwise_of_isAscending (isAscending_node roster ofGpu) not_nodeBefore_self
    intro a inA b inB same
    exact node?_eq_of_sameSeries same (keys a inA) (keys b inB)

theorem isPublishable_of_mem_families {roster : Roster} :
    ∀ f ∈ families (observe roster), f.IsPublishable := by
  intro f member
  obtain ⟨g, -, shown⟩ := List.mem_filterMap.1 member
  have readings : f.readings = gaugeReadings roster g := readings_of_family? shown
  refine ⟨isReadable_of_mem_families (hasLabelNames_observe roster) f member, ?_, ?_, ?_⟩
  · obtain ⟨full, rfl⟩ := family?_eq_some shown
    simpa using full
  · rw [readings]
    exact keys_of_mem_gaugeReadings
  · rw [readings]
    exact series_gaugeReadings roster g

theorem isOrdered_of_mem_families {roster : Roster} :
    ∀ f ∈ families (observe roster), f.block.IsOrdered := by
  intro f member
  obtain ⟨g, -, shown⟩ := List.mem_filterMap.1 member
  have readings : f.readings = gaugeReadings roster g := readings_of_family? shown
  have name : f.name = g.name := by
    obtain ⟨-, rfl⟩ := family?_eq_some shown
    rfl
  constructor
  · intro h ofNode same
    obtain rfl : g = h := Gauge.name_injective (name.symm.trans same)
    rw [Family.block, readings]
    exact isAscending_node roster ofNode
  · intro same
    obtain rfl : g = .gpuAllocated := Gauge.name_injective (name.symm.trans same)
    rw [Family.block, readings]
    exact isAscending_gpu roster

/-- The families of a page follow each other in the order of the gauges. -/
theorem names_families_sublist (observations : List Observation) :
    ((families observations).map Family.name).Sublist (Gauge.all.map Gauge.name) := by
  rw [families]
  induction Gauge.all with
  | nil => exact List.Sublist.slnil
  | cons g gauges ih =>
      cases shown : family? observations g with
      | none =>
          rw [List.filterMap_cons_none shown, List.map_cons]
          exact ih.cons g.name
      | some f =>
          have name : f.name = g.name := by
            obtain ⟨-, rfl⟩ := family?_eq_some shown
            rfl
          rw [List.filterMap_cons_some shown, List.map_cons, List.map_cons, name]
          exact ih.cons_cons g.name

end NodeGauge.Exposition
