/-
Module: NodeGauge.Proofs.Listing.Padding
Purpose: The columns of a line are found whatever blanks stand around and between them, and a line
  is refused just if it does not have one word for each column.
Main exports: Listing.Row.columns, Listing.Row.ofLine_eq_ok_iff, Listing.Row.ofLine_eq_error_iff,
  Listing.Row.columns_whatever_gaps
-/
import NodeGauge.Listing.Row
import NodeGauge.Proofs.Text.Layout

namespace NodeGauge.Listing.Row

open Text (LaidOut Run)

/-- The columns of a row in the order in which they stand in a line. -/
def columns (row : Row) : List Text :=
  [row.name, row.memoryAllocated, row.memoryTotal, row.cpu, row.status, row.gres, row.gresUsed]

theorem columns_injective : Function.Injective columns := by
  rintro ⟨⟩ ⟨⟩ same
  simpa [columns] using same

/-- Seven words are the columns of a row. -/
theorem exists_columns_iff {words : List Text} :
    (∃ row : Row, row.columns = words) ↔ words.length = 7 := by
  constructor
  · rintro ⟨row, rfl⟩
    rfl
  · intro seven
    match words, seven with
    | [name, memoryAllocated, memoryTotal, cpu, status, gres, gresUsed], _ =>
        exact ⟨⟨name, memoryAllocated, memoryTotal, cpu, status, gres, gresUsed⟩, rfl⟩

/-- A line whose words are the columns of a row is that row. -/
theorem ofLine_of_columns {line : Text} {row : Row} (words : line.words = row.columns) :
    ofLine line = .ok row := by
  rw [ofLine, words]
  rfl

/-- A line that has not one word for each column is refused with their number. -/
theorem ofLine_of_length_ne {line : Text} (wrong : line.words.length ≠ 7) :
    ofLine line = .error (.wrongColumnCount line.words.length) := by
  rw [ofLine]
  split
  · next words => exact absurd (by rw [words]; rfl) wrong
  · rfl

theorem ofLine_eq_ok_iff {line : Text} {row : Row} :
    ofLine line = .ok row ↔ line.words = row.columns := by
  refine ⟨fun ok => ?_, ofLine_of_columns⟩
  by_cases seven : line.words.length = 7
  · obtain ⟨found, columns⟩ := exists_columns_iff.2 seven
    rw [ofLine_of_columns columns.symm] at ok
    obtain rfl := Except.ok.inj ok
    exact columns.symm
  · rw [ofLine_of_length_ne seven] at ok
    cases ok

theorem ofLine_eq_error_iff {line : Text} {fault : Fault} :
    ofLine line = .error fault ↔
      fault = .wrongColumnCount line.words.length ∧ line.words.length ≠ 7 := by
  by_cases seven : line.words.length = 7
  · obtain ⟨row, columns⟩ := exists_columns_iff.2 seven
    simp [ofLine_of_columns columns.symm, seven]
  · rw [ofLine_of_length_ne seven]
    simp [seven, eq_comm]

/-- The words of a line decide what it is split and read into. -/
theorem ofLine_congr {line other : Text} (words : other.words = line.words) :
    ofLine other = ofLine line := by
  rw [ofLine, ofLine, words]

/-- A line is split into the columns of a row just if it is laid out as these columns with gaps of
blanks around and between them, which it is in one way at most.  Any other line is refused, with
the number of its longest runs without blanks, which is not seven.  So lines that differ in nothing
but their gaps are split alike and read alike, whether they are accepted or refused. -/
theorem columns_whatever_gaps (line : Text) :
    (∀ row, ofLine line = .ok row ↔ ∃ gaps, LaidOut line row.columns gaps) ∧
      (∀ (row other : Row) gaps otherGaps, LaidOut line row.columns gaps →
        LaidOut line other.columns otherGaps → row = other ∧ gaps = otherGaps) ∧
      (∀ fault, ofLine line = .error fault ↔
        fault = .wrongColumnCount {run : Run | run.IsIn line}.ncard ∧
          {run : Run | run.IsIn line}.ncard ≠ 7) ∧
      (∀ found, (Fault.wrongColumnCount found).message =
        "expected 7 fields, found ".toList ++ Numeral.ofNat found) ∧
      ∀ other words gaps otherGaps, LaidOut line words gaps → LaidOut other words otherGaps →
        ofLine other = ofLine line ∧ readLine other = readLine line := by
  rw [Text.ncard_runs]
  refine ⟨?_, ?_, fun fault => ofLine_eq_error_iff, fun found => rfl, ?_⟩
  · intro row
    rw [ofLine_eq_ok_iff]
    constructor
    · intro words
      rw [← words]
      exact Text.exists_laidOut_words line
    · rintro ⟨gaps, laidOut⟩
      exact laidOut.words_eq
  · intro row other gaps otherGaps one two
    obtain ⟨columns, gaps⟩ := one.unique two
    exact ⟨columns_injective columns, gaps⟩
  · intro other words gaps otherGaps one two
    have same : ofLine other = ofLine line :=
      ofLine_congr (two.words_eq.trans one.words_eq.symm)
    exact ⟨same, by rw [readLine, readLine, same]⟩

/-- Blanks of many widths stand for single spaces, and neither a character without width nor an
information separator parts two words. -/
theorem columns_whatever_gaps_wide :
    let wide : Text :=
      "\t n1\u30001024\u00a0\u00a02048\u20284/2/0/6\r\nmixed\x0b(null)\u0085(null)\u2003".toList
    let plain : Text := "n1 1024 2048 4/2/0/6 mixed (null) (null)".toList
    let joined : Text := "n1 1024 2048 4/2/0/6\u200bmixed (null)\x1c(null)".toList
    let row : Row := ⟨"n1".toList, "1024".toList, "2048".toList, "4/2/0/6".toList, "mixed".toList,
      "(null)".toList, "(null)".toList⟩
    ofLine wide = .ok row ∧ ofLine plain = .ok row ∧ readLine wide = readLine plain ∧
      ofLine joined = .error (.wrongColumnCount 5) := by
  intro wide plain joined row
  have wideWords : wide.words = row.columns := by decide
  have plainWords : plain.words = row.columns := by decide
  obtain ⟨wideGaps, wideLaidOut⟩ := Text.exists_laidOut_words wide
  obtain ⟨plainGaps, plainLaidOut⟩ := Text.exists_laidOut_words plain
  rw [wideWords] at wideLaidOut
  rw [plainWords] at plainLaidOut
  obtain ⟨accepted, -, -, -, alike⟩ := columns_whatever_gaps plain
  obtain ⟨-, -, refused, -⟩ := columns_whatever_gaps joined
  have ok := (accepted row).2 ⟨plainGaps, plainLaidOut⟩
  obtain ⟨split, read⟩ := alike _ _ _ _ plainLaidOut wideLaidOut
  have five : {run : Run | run.IsIn joined}.ncard = 5 := by
    rw [Text.ncard_runs]
    decide
  exact ⟨split.trans ok, ok, read, (refused _).2 ⟨by rw [five], by rw [five]; decide⟩⟩

end NodeGauge.Listing.Row
