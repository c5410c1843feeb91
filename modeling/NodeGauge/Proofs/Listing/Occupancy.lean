/-
Module: NodeGauge.Proofs.Listing.Occupancy
Purpose: How many GPUs of a node are in use by its bitmap, by the spans of its index list and by the
  count that the scheduler reports, and when the three agree.
Main exports: Gres.Span.indices, Gres.Span.size, Gres.covered, Gres.AreApart, Gres.card_covered_le,
  Gres.card_covered_eq_iff, Gres.exists_spans, Node.GpuSection.length_allocatedIndices,
  Node.GpuSection.idle_add_min, Listing.Tallies, Listing.tallies_of_bitmapOf,
  Listing.row_tallies_spans
-/
import Mathlib.Data.Bool.Count
import Mathlib.Data.Finset.Card
import Mathlib.Order.Interval.Finset.Nat
import NodeGauge.Proofs.Listing.RoundTrip

namespace NodeGauge.Gres

/-! ### Indices of spans -/

/-- The indices of a span, both ends included. -/
def Span.indices (s : Span) : Finset Nat := Finset.Icc s.first.toNat s.last.toNat

/-- How many indices a span has that does not run backwards. -/
def Span.size (s : Span) : Nat := s.last.toNat - s.first.toNat + 1

/-- The indices of some spans, each once. -/
def covered : List Span → Finset Nat
  | [] => ∅
  | s :: spans => s.indices ∪ covered spans

/-- No index belongs to two of the spans.  A span that stands twice in the list has all its indices
twice. -/
def AreApart (spans : List Span) : Prop := spans.Pairwise fun s t => Disjoint s.indices t.indices

theorem Span.mem_indices {s : Span} {i : Nat} :
    i ∈ s.indices ↔ s.first.toNat ≤ i ∧ i ≤ s.last.toNat :=
  Finset.mem_Icc

theorem Span.card_indices {s : Span} (forwards : s.first.toNat ≤ s.last.toNat) :
    s.indices.card = s.size := by
  rw [indices, Nat.card_Icc, size]
  omega

theorem mem_covered {spans : List Span} {i : Nat} :
    i ∈ covered spans ↔ ∃ s ∈ spans, i ∈ s.indices := by
  induction spans with
  | nil => simp [covered]
  | cons s spans ih => simp [covered, ih]

theorem disjoint_covered_iff {s : Span} {spans : List Span} :
    Disjoint s.indices (covered spans) ↔ ∀ t ∈ spans, Disjoint s.indices t.indices := by
  induction spans with
  | nil => simp [covered]
  | cons t spans ih => rw [covered, Finset.disjoint_union_right, ih, List.forall_mem_cons]

/-- What one more span brings: its own indices, less those that are there already. -/
theorem card_covered_cons {s : Span} (forwards : s.first.toNat ≤ s.last.toNat)
    (spans : List Span) :
    (covered (s :: spans)).card + (s.indices ∩ covered spans).card =
      s.size + (covered spans).card := by
  rw [covered, Finset.card_union_add_card_inter, Span.card_indices forwards]

section forwards

variable {spans : List Span}

/-- Spans have no more indices than they have one by one. -/
theorem card_covered_le (forwards : ∀ s ∈ spans, s.first.toNat ≤ s.last.toNat) :
    (covered spans).card ≤ (spans.map Span.size).sum := by
  induction spans with
  | nil => simp [covered]
  | cons s spans ih =>
      rw [List.forall_mem_cons] at forwards
      have brings := card_covered_cons forwards.1 spans
      have later := ih forwards.2
      rw [List.map_cons, List.sum_cons]
      omega

/-- Spans have as many indices as they have one by one just if none has an index of another. -/
theorem card_covered_eq_iff (forwards : ∀ s ∈ spans, s.first.toNat ≤ s.last.toNat) :
    (covered spans).card = (spans.map Span.size).sum ↔ AreApart spans := by
  induction spans with
  | nil => simp [covered, AreApart]
  | cons s spans ih =>
      rw [List.forall_mem_cons] at forwards
      have brings := card_covered_cons forwards.1 spans
      have atMost := card_covered_le forwards.2
      rw [AreApart, List.pairwise_cons, ← disjoint_covered_iff,
        Finset.disjoint_iff_inter_eq_empty, ← Finset.card_eq_zero, List.map_cons, List.sum_cons]
      -- a loss anywhere is a loss in the sum, since no span brings more than its own indices
      constructor
      · intro same
        exact ⟨by omega, (ih forwards.2).1 (by omega)⟩
      · rintro ⟨none, apart⟩
        have later := (ih forwards.2).2 apart
        omega

end forwards

/-! ### Spans of a list -/

/-- Items name one list of spans. -/
theorem Names.forall₂_unique {items : List Text} {spans others : List Span}
    (one : List.Forall₂ Names items spans) (two : List.Forall₂ Names items others) :
    spans = others :=
  List.right_unique_forall₂' (fun _ _ _ first second => first.unique second) one two

/-- The items of a list that is not the word for no index name spans, and these make the bitmap. -/
theorem exists_spans {devices : UInt64} {list : Text} {bitmap : Bitmap}
    (few : devices.toNat ≤ 65535) (expands : Expands devices list bitmap)
    (listed : list ≠ noIndices) :
    ∃ spans, List.Forall₂ Names (list.splitOn ',') spans ∧ (∀ s ∈ spans, s.Fits devices) ∧
      bitmap = bitmapOf devices.toNat spans := by
  have ok := readIndexList_eq_ok_iff_expands.2 ⟨few, expands⟩
  rw [readIndexList_eq_map few listed] at ok
  cases read : (list.splitOn ',').mapM (Span.read devices) with
  | error fault =>
      rw [read] at ok
      cases ok
  | ok spans =>
      rw [read] at ok
      have named := (forall₂_of_mapM_eq_ok read).imp fun item s good =>
        (Span.read_eq_ok_iff.1 good).1
      refine ⟨spans, named, ?_, (Except.ok.inj ok).symm⟩
      intro s among
      obtain ⟨item, -, good⟩ := (mem_iff_of_mapM_eq_ok read).1 among
      exact (Span.read_eq_ok_iff.1 good).2

/-- The flags that spans set are those of their indices. -/
theorem getElem?_bitmapOf_iff {devices : UInt64} {spans : List Span}
    (fits : ∀ s ∈ spans, s.Fits devices) {i : Nat} :
    (bitmapOf devices.toNat spans)[i]? = some true ↔ i ∈ covered spans := by
  rw [mem_covered]
  by_cases below : i < devices.toNat
  · rw [getElem?_bitmapOf below, Option.some.injEq, List.any_eq_true]
    simp only [Span.covers_iff, Span.mem_indices]
  · have behind : (bitmapOf devices.toNat spans)[i]? = none := by
      rw [List.getElem?_eq_none_iff, length_bitmapOf]
      exact Nat.not_lt.1 below
    rw [behind]
    constructor
    · intro set
      cases set
    · rintro ⟨s, among, inside⟩
      have last := (Span.mem_indices.1 inside).2
      exact absurd (Nat.lt_of_le_of_lt last (fits s among).inside) below

end NodeGauge.Gres

namespace NodeGauge.Node.GpuSection

/-! ### GPUs in use and idle -/

theorem allocatedIndices_ascending (gpu : GpuSection) : gpu.allocatedIndices.Pairwise (· < ·) := by
  have places : (gpu.bitmap.zipIdx.map Prod.snd).Pairwise (· < ·) := by
    rw [List.zipIdx_map_snd]
    exact List.pairwise_lt_range'
  rw [List.pairwise_map] at places
  rw [allocatedIndices, List.pairwise_filterMap]
  refine places.imp fun {one two} before i first j second => ?_
  obtain ⟨-, rfl⟩ : one.1 = true ∧ one.2 = i := by simpa using first
  obtain ⟨-, rfl⟩ : two.1 = true ∧ two.2 = j := by simpa using second
  exact before

/-- There are as many indices as flags that are set. -/
theorem length_allocatedIndices (gpu : GpuSection) :
    gpu.allocatedIndices.length = gpu.bitmap.count true := by
  have flags : gpu.bitmap.count true = gpu.bitmap.zipIdx.countP fun flag => flag.1 == true := by
    conv_lhs => rw [← List.zipIdx_map_fst 0 gpu.bitmap]
    rw [List.count, List.countP_map]
    rfl
  rw [flags, allocatedIndices, List.length_filterMap_eq_countP]
  apply List.countP_congr
  rintro ⟨flag, i⟩ -
  cases flag <;> simp

/-- Idle GPUs are what is left of all by the count, and none if the count is greater. -/
theorem idle_add_min (gpu : GpuSection) :
    gpu.idle + min gpu.allocatedCount.toNat gpu.total = gpu.total := by
  rw [idle]
  omega

/-- If the count is that of the indices, then the idle GPUs are those whose flag is not set. -/
theorem idle_eq_count_false {gpu : GpuSection}
    (agrees : gpu.allocatedIndices.length = gpu.allocatedCount.toNat) :
    gpu.idle = gpu.bitmap.count false := by
  have flags := List.count_true_add_count_false gpu.bitmap
  rw [length_allocatedIndices] at agrees
  rw [idle, total, ← agrees]
  omega

end NodeGauge.Node.GpuSection

namespace NodeGauge.Listing

open Gres (AreApart Bitmap Descriptor Names Span bitmapOf covered)
open Node (GpuSection Record)

/-! ### Rows -/

/-- What the indices in use have to do with the spans that they come from. -/
structure Tallies (gpu : GpuSection) (spans : List Span) : Prop where
  atMost : gpu.allocatedIndices.length ≤ (spans.map Span.size).sum
  exact_iff : gpu.allocatedIndices.length = (spans.map Span.size).sum ↔ AreApart spans
  /-- A count that is the sum over spans without common indices is right in every way. -/
  agrees : AreApart spans → gpu.allocatedCount.toNat = (spans.map Span.size).sum →
    gpu.allocatedIndices.length = gpu.allocatedCount.toNat ∧ gpu.idle = gpu.bitmap.count false

/-- The indices in use are those of the spans that the bitmap is made of. -/
theorem toFinset_allocatedIndices {gpu : GpuSection} {devices : UInt64} {spans : List Span}
    (fits : ∀ s ∈ spans, s.Fits devices) (made : gpu.bitmap = bitmapOf devices.toNat spans) :
    gpu.allocatedIndices.toFinset = covered spans := by
  ext i
  rw [List.mem_toFinset, mem_allocatedIndices, made, Gres.getElem?_bitmapOf_iff fits]

theorem tallies_of_bitmapOf {gpu : GpuSection} {devices : UInt64} {spans : List Span}
    (fits : ∀ s ∈ spans, s.Fits devices) (made : gpu.bitmap = bitmapOf devices.toNat spans) :
    Tallies gpu spans := by
  have forwards : ∀ s ∈ spans, s.first.toNat ≤ s.last.toNat := fun s among =>
    (fits s among).forwards
  have length : gpu.allocatedIndices.length = (covered spans).card := by
    rw [← toFinset_allocatedIndices fits made]
    exact (List.toFinset_card_of_nodup gpu.allocatedIndices_ascending.nodup).symm
  have exact_iff : gpu.allocatedIndices.length = (spans.map Span.size).sum ↔ AreApart spans := by
    rw [length]
    exact Gres.card_covered_eq_iff forwards
  refine ⟨?_, exact_iff, ?_⟩
  · rw [length]
    exact Gres.card_covered_le forwards
  · intro apart count
    have agrees := (exact_iff.2 apart).trans count.symm
    exact ⟨agrees, GpuSection.idle_eq_count_false agrees⟩

/-- Of any GPUs, the indices in use ascend and are those of the flags that are set, and those idle
and those in use make up all, as far as the count that is reported does not exceed them.  In a row
with an index list, the items of the list name spans, and there are at most as many indices in use
as the spans have one by one; just as many if no two spans have a common index; and then, if that is
the count that is reported, this count is the number of indices in use, and the GPUs that are idle
are those whose flag is not set. -/
theorem row_tallies_spans :
    (∀ gpu : GpuSection, gpu.allocatedIndices.Pairwise (· < ·) ∧
      (∀ i, i ∈ gpu.allocatedIndices ↔ gpu.bitmap[i]? = some true) ∧
      gpu.idle + min gpu.allocatedCount.toNat gpu.total = gpu.total) ∧
    ∀ (row : Row) (r : Record) (gpu : GpuSection) (used : Descriptor) (list : Text),
      row.decode = .ok r → r.gpu = some gpu → Descriptor.read row.gresUsed = .ok used →
      used.indexList? = some list → list ≠ "N/A".toList →
        ∃ spans, List.Forall₂ Names (list.splitOn ',') spans ∧ Tallies gpu spans := by
  refine ⟨fun gpu => ⟨gpu.allocatedIndices_ascending, fun i => mem_allocatedIndices,
    gpu.idle_add_min⟩, ?_⟩
  intro row r gpu used list ok present read indices listed
  have gives := (Row.gives_of_decode ok).gpu
  rw [present] at gives
  cases gives with
  | some lists few expands =>
      obtain rfl := lists.describesUsed.unique (Descriptor.read_eq_ok_iff.1 read)
      rw [Descriptor.indexList?_eq_some_iff.2 lists.group] at indices
      obtain rfl := Option.some.inj indices
      obtain ⟨spans, named, fits, made⟩ := Gres.exists_spans few expands listed
      exact ⟨spans, named, tallies_of_bitmapOf fits made⟩

/-- Three GPUs of eight, named out of order, and counted right. -/
theorem row_tallies_spans_eight :
    let row : Row := ⟨"n1".toList, "0".toList, "0".toList, "0/4/0/4".toList, "mixed".toList,
      "gpu:a100:8(S:0-1)".toList, "gpu:a100:3(IDX:5-6,1)".toList⟩
    let gpu : GpuSection :=
      ⟨"a100".toList, 3, [false, true, false, false, false, true, true, false]⟩
    row.decode = .ok ⟨"n1".toList, "mixed".toList, ⟨0, 4, 0, 4⟩, ⟨0, 0⟩, some gpu⟩ ∧
      Tallies gpu [⟨5, 6⟩, ⟨1, 1⟩] ∧ AreApart [⟨5, 6⟩, ⟨1, 1⟩] ∧
      gpu.allocatedIndices.length = 3 ∧ gpu.idle = 5 := by
  intro row gpu
  have ok : row.decode = .ok ⟨"n1".toList, "mixed".toList, ⟨0, 4, 0, 4⟩, ⟨0, 0⟩, some gpu⟩ := by
    decide
  have read : Descriptor.read row.gresUsed =
      .ok ⟨"a100".toList, 3, some "IDX:5-6,1".toList⟩ := by
    decide
  obtain ⟨spans, named, tallies⟩ :=
    row_tallies_spans.2 row _ gpu _ "5-6,1".toList ok rfl read rfl (by decide)
  have items : "5-6,1".toList.splitOn ',' = ["5-6".toList, "1".toList] := by decide
  have known : List.Forall₂ Names (["5-6".toList, "1".toList] : List Text) [⟨5, 6⟩, ⟨1, 1⟩] :=
    .cons (Span.ofItem?_eq_some_iff.1 (by decide))
      (.cons (Span.ofItem?_eq_some_iff.1 (by decide)) .nil)
  rw [items] at named
  obtain rfl := Names.forall₂_unique named known
  have apart : AreApart [⟨5, 6⟩, ⟨1, 1⟩] := by
    apply tallies.exact_iff.1
    decide
  obtain ⟨length, idle⟩ := tallies.agrees apart (by decide)
  exact ⟨ok, tallies, apart, length, idle⟩

/-- Overlapping spans have fewer indices than the count that is the sum over them. -/
example :
    GpuSection.allocatedIndices ⟨"a100".toList, 4, [true, true, true, false]⟩ = [0, 1, 2] ∧
      ([⟨0, 1⟩, ⟨1, 2⟩].map Span.size).sum = 4 := by
  decide

end NodeGauge.Listing
