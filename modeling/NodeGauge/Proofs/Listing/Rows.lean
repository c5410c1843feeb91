/-
Module: NodeGauge.Proofs.Listing.Rows
Purpose: A listing is read row by row.  What it says is settled by the set of its rows: neither
  their order nor their number counts, and a row that is not UTF-8 spoils no other.
Main exports: Listing.rowsOf, Listing.lineOf, Listing.SameRows, Listing.mem_linesOf_iff,
  Listing.ascending_linesOf, Listing.size_survey_le, Listing.survey_reads_rows_alone
-/
import NodeGauge.Proofs.Listing.Account
import NodeGauge.Proofs.Text.Feeds

namespace NodeGauge.Listing

/-- The rows of a listing: the octets between its line feeds. -/
def rowsOf (listing : Octets) : List Octets := listing.splitOn Octets.feed

/-- The line of a row: its own octets decoded, and the text trimmed. -/
def lineOf (row : Octets) : Text := Text.trim row.decode

/-- Two listings with the same rows.  An empty row says nothing, so it may be in one and not in the
other. -/
def SameRows (first second : Octets) : Prop :=
  ∀ row, row ≠ [] → (row ∈ rowsOf first ↔ row ∈ rowsOf second)

/-! ### Lines of rows -/

theorem lineOf_nil : lineOf [] = [] := by simp [lineOf, Octets.decode, Text.trim]

/-- The lines of a listing are those of its rows. -/
theorem mem_linesOf_iff {listing : Octets} {line : Text} :
    line ∈ linesOf listing ↔ line ≠ [] ∧ ∃ row ∈ rowsOf listing, lineOf row = line := by
  rw [mem_linesOf, Octets.splitOn_decode]
  simp only [List.mem_map, exists_exists_and_eq_and]
  rfl

theorem ascending_linesOf (listing : Octets) : (linesOf listing).Pairwise (· < ·) :=
  Text.pairwise_distinctSorted _

theorem linesOf_eq_of_sameRows {first second : Octets} (same : SameRows first second) :
    linesOf first = linesOf second := by
  have known {row : Octets} {line : Text} (full : line ≠ []) (own : lineOf row = line) :
      row ∈ rowsOf first ↔ row ∈ rowsOf second := by
    apply same
    rintro rfl
    exact full (own.symm.trans lineOf_nil)
  apply Text.eq_of_pairwise_of_mem_iff (ascending_linesOf first) (ascending_linesOf second)
  intro line
  rw [mem_linesOf_iff, mem_linesOf_iff]
  constructor
  · rintro ⟨full, row, member, own⟩
    exact ⟨full, row, (known full own).1 member, own⟩
  · rintro ⟨full, row, member, own⟩
    exact ⟨full, row, (known full own).2 member, own⟩

/-! ### How much a listing can say -/

theorem length_rowsOf_le (listing : Octets) : (rowsOf listing).length ≤ listing.length + 1 := by
  rw [rowsOf]
  induction listing with
  | nil => simp
  | cons b listing ih =>
      rw [List.splitOn_cons_eq_if_modifyHead]
      split
      · simpa using ih
      · simpa using Nat.le_succ_of_le ih

theorem length_linesOf_le (listing : Octets) :
    (linesOf listing).length ≤ (rowsOf listing).length := by
  have within : linesOf listing ⊆ (rowsOf listing).map lineOf := by
    intro line member
    obtain ⟨-, row, among, own⟩ := mem_linesOf_iff.1 member
    exact List.mem_map.2 ⟨row, among, own⟩
  have nodup := Text.nodup_of_pairwise (ascending_linesOf listing)
  simpa using nodup.length_le_of_subset within

/-- A listing names no more nodes than it has rows. -/
theorem size_survey_le (listing : Octets) :
    (survey listing).roster.size ≤ (rowsOf listing).length := by
  obtain ⟨kept, dropped, parted⟩ := (accounts_survey listing).parted
  have lines := parted.perm.length_eq
  have records := parted.kept_records.length_eq
  have bound := length_linesOf_le listing
  simp only [List.length_append, List.length_map] at lines records
  rw [Node.Roster.size]
  omega

/-! ### A survey row by row -/

/-- Listings with the same rows say the same, down to the order of what they reject and of their
conflicts.  Each line comes from the octets of one row alone: whatever stands before a line feed,
decoding starts afresh behind it. -/
theorem survey_reads_rows_alone :
    (∀ first second, SameRows first second → survey first = survey second) ∧
    (∀ listing : Octets,
      listing.decode.splitOn '\n' = (rowsOf listing).map Octets.decode ∧
        ∀ line, line ∈ linesOf listing ↔ line ≠ [] ∧ ∃ row ∈ rowsOf listing, lineOf row = line) ∧
    ∀ front back : Octets,
      (front ++ Octets.feed :: back).decode = front.decode ++ '\n' :: back.decode := by
  refine ⟨?_, ?_, Octets.decode_append_feed⟩
  · intro first second same
    rw [survey, survey, linesOf_eq_of_sameRows same]
  · intro listing
    exact ⟨Octets.splitOn_decode listing, fun line => mem_linesOf_iff⟩

/-- A row that ends inside a character of three octets, before, between and behind other rows. -/
theorem survey_reads_rows_alone_truncated :
    let cut : Octets := Text.utf8 "b 0 8 1/1/0/2 ".toList ++ [0xe2, 0x82]
    let whole : Octets := Text.utf8 "a 0 8 0/2/0/2 idle (null) (null)".toList
    let first := cut ++ Octets.feed :: whole
    let second := whole ++ Octets.feed :: cut ++ Octets.feed :: Octets.feed :: whole
    SameRows first second ∧ survey first = survey second := by
  intro cut whole first second
  have rowsFirst : rowsOf first = [cut, whole] := by decide
  have rowsSecond : rowsOf second = [whole, cut, [], whole] := by decide
  have same : SameRows first second := by
    intro row full
    rw [rowsFirst, rowsSecond]
    simp only [List.mem_cons, List.not_mem_nil, or_false]
    constructor
    · rintro (isCut | isWhole)
      · exact Or.inr (Or.inl isCut)
      · exact Or.inl isWhole
    · rintro (isWhole | isCut | isEmpty | isWhole)
      · exact Or.inr isWhole
      · exact Or.inl isCut
      · exact absurd isEmpty full
      · exact Or.inr isWhole
  exact ⟨same, survey_reads_rows_alone.1 first second same⟩

end NodeGauge.Listing
