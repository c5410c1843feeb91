/-
Module: NodeGauge.Proofs.Gres.IndexList
Purpose: The text of a list of device indices, which reads back as the bitmap of these devices.
Main exports: Gres.writeIndexList, Gres.getElem?_bitmapOf, Gres.readIndexList_writeIndexList
-/
import NodeGauge.Gres.IndexList
import NodeGauge.Proofs.Number.Numeral

namespace NodeGauge.Gres

/-- The text of a list of indices: their numerals with commas between, or the word for none. -/
def writeIndexList : List Nat → Text
  | [] => noIndices
  | indices => [','].intercalate (indices.map Numeral.ofNat)

/-- The span of one index. -/
def Span.single (index : Nat) : Span := ⟨UInt64.ofNat index, UInt64.ofNat index⟩

/-! ### Bitmaps of spans -/

theorem length_bitmapOf (devices : Nat) (spans : List Span) :
    (bitmapOf devices spans).length = devices := by
  simp [bitmapOf]

theorem getElem?_bitmapOf {devices index : Nat} (below : index < devices) (spans : List Span) :
    (bitmapOf devices spans)[index]? = some (spans.any (·.covers index)) := by
  simp [bitmapOf, List.getElem?_range below]

theorem Span.covers_single {index : Nat} (fits : index < UInt64.size) (other : Nat) :
    (Span.single index).covers other = true ↔ index = other := by
  have value : (UInt64.ofNat index).toNat = index := UInt64.toNat_ofNat_of_lt' fits
  simp only [single, covers, value, Bool.and_eq_true, decide_eq_true_eq]
  constructor
  · rintro ⟨least, greatest⟩
    exact Nat.le_antisymm least greatest
  · rintro rfl
    exact ⟨Nat.le_refl _, Nat.le_refl _⟩

/-! ### Reading the text of a list -/

section reading

variable {devices : UInt64}

theorem Span.read_ofNat {index : Nat} (below : index < devices.toNat) :
    Span.read devices (Numeral.ofNat index) = .ok (single index) := by
  have fits : index < UInt64.size := Nat.lt_trans below devices.toNat_lt
  have value : (UInt64.ofNat index).toNat = index := UInt64.toNat_ofNat_of_lt' fits
  have noDash : (Numeral.ofNat index).cut '-' = none :=
    Text.cut_eq_none_iff.2 (Numeral.not_mem_ofNat (by decide) index)
  have item : ofItem? (Numeral.ofNat index) = some (single index) := by
    rw [ofItem?, noDash]
    simp [Numeral.read?_ofNat fits, single]
  have notBackwards : ¬ (single index).last < (single index).first := UInt64.lt_irrefl _
  have inside : ¬ devices ≤ (single index).last := by
    rw [UInt64.le_iff_toNat_le, single, value]
    exact Nat.not_le.2 below
  rw [read, item]
  simp only [notBackwards, inside, if_false]

theorem mapM_read_ofNat {indices : List Nat} (below : ∀ index ∈ indices, index < devices.toNat) :
    (indices.map Numeral.ofNat).mapM (Span.read devices) = .ok (indices.map Span.single) := by
  induction indices with
  | nil => rfl
  | cons index indices ih =>
      have first := Span.read_ofNat (below index List.mem_cons_self)
      have later := ih fun other member => below other (List.mem_cons_of_mem _ member)
      simp [first, later, pure, Except.pure, bind, Except.bind]

theorem splitOn_writeIndexList {indices : List Nat} (some : indices ≠ []) :
    (writeIndexList indices).splitOn ',' = indices.map Numeral.ofNat := by
  cases indices with
  | nil => exact absurd rfl some
  | cons index indices =>
      apply List.splitOn_intercalate
      · intro numeral member
        obtain ⟨n, _, rfl⟩ := List.mem_map.1 member
        exact Numeral.not_mem_ofNat (by decide) n
      · simp

theorem writeIndexList_ne_noIndices {indices : List Nat} (some : indices ≠ []) :
    writeIndexList indices ≠ noIndices := by
  intro same
  have pieces := splitOn_writeIndexList some
  rw [same] at pieces
  have letter : 'N' ∈ (indices.map Numeral.ofNat).flatten := by
    rw [← pieces]
    decide
  obtain ⟨numeral, member, inside⟩ := List.mem_flatten.1 letter
  obtain ⟨n, _, rfl⟩ := List.mem_map.1 member
  exact Numeral.not_mem_ofNat (by decide) n inside

/-- The text of a list of indices reads as the bitmap of these devices. -/
theorem readIndexList_writeIndexList {indices : List Nat} (few : devices ≤ deviceLimit)
    (below : ∀ index ∈ indices, index < devices.toNat) :
    readIndexList (writeIndexList indices) devices =
      .ok (bitmapOf devices.toNat (indices.map Span.single)) := by
  have notMany : ¬ deviceLimit < devices := UInt64.not_lt.2 few
  rw [readIndexList, if_neg notMany]
  cases indices with
  | nil => rfl
  | cons index indices =>
      have some : index :: indices ≠ [] := by simp
      rw [if_neg (writeIndexList_ne_noIndices some), splitOn_writeIndexList some,
        mapM_read_ofNat below]
      rfl

end reading

end NodeGauge.Gres
