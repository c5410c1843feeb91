/-
Module: NodeGauge.Proofs.Text.Trimming
Purpose: Trimming takes the white space from both ends of a text, all of it and nothing else, so
  that a text which starts and ends with a word has nothing to trim.
Main exports: Text.whiteSpace, Text.isBlank_iff, Text.IsTrimmed, Text.isTrimmed_iff,
  Text.trim_intercalate
-/
import Mathlib.Data.List.DropRight
import NodeGauge.Proofs.Text.Words

namespace NodeGauge.Text

/-! ### What is trimmed -/

/-- The code points with the property White_Space, from the tab to the ideographic space. -/
def whiteSpace : List Nat :=
  [0x09, 0x0a, 0x0b, 0x0c, 0x0d, 0x20, 0x85, 0xa0, 0x1680, 0x2000, 0x2001, 0x2002, 0x2003, 0x2004,
   0x2005, 0x2006, 0x2007, 0x2008, 0x2009, 0x200a, 0x2028, 0x2029, 0x202f, 0x205f, 0x3000]

theorem isBlank_iff {c : Char} : isBlank c = true ↔ c.toNat ∈ whiteSpace := by
  simp only [isBlank, whiteSpace, Bool.or_eq_true, Bool.and_eq_true, decide_eq_true_eq,
    beq_iff_eq, List.mem_cons, List.not_mem_nil, or_false]
  omega

/-- A line is what is left of a text that is trimmed: around it there is white space only, and it
has none at its own ends. -/
structure IsTrimmed (s line : Text) : Prop where
  around : ∃ front back, s = front ++ line ++ back ∧ (∀ c ∈ front, c.toNat ∈ whiteSpace) ∧
    ∀ c ∈ back, c.toNat ∈ whiteSpace
  opens : ∀ c, line.head? = some c → c.toNat ∉ whiteSpace
  closes : ∀ c, line.getLast? = some c → c.toNat ∉ whiteSpace

theorem dropWhile_isBlank_eq_self {s : Text} (front : ∀ c, s.head? = some c → isBlank c = false) :
    s.dropWhile isBlank = s := by
  cases s with
  | nil => rfl
  | cons c s =>
      apply List.dropWhile_cons_of_neg
      simp [front c rfl]

/-- A text that neither starts nor ends with a blank has nothing to trim. -/
theorem trim_eq_self {s : Text} (front : ∀ c, s.head? = some c → isBlank c = false)
    (back : ∀ c, s.getLast? = some c → isBlank c = false) : trim s = s := by
  have reversed := dropWhile_isBlank_eq_self (s := s.reverse) (by simpa using back)
  rw [trim, dropWhile_isBlank_eq_self front, reversed, List.reverse_reverse]

/-! ### What is left -/

theorem trim_blank_append {front : Text} (blank : ∀ c ∈ front, isBlank c = true) (s : Text) :
    trim (front ++ s) = trim s := by
  rw [trim, List.dropWhile_append_of_pos blank, trim]

theorem trim_append_blank {back : Text} (blank : ∀ c ∈ back, isBlank c = true) (s : Text) :
    trim (s ++ back) = trim s := by
  have behind (t : Text) :
      ((t ++ back).reverse.dropWhile isBlank).reverse = (t.reverse.dropWhile isBlank).reverse := by
    rw [List.reverse_append, List.dropWhile_append_of_pos (by simpa using blank)]
  rw [trim, List.dropWhile_append]
  split
  · next none =>
      -- The text is blank, and so is all of it with the blanks behind it.
      have nothing : back.dropWhile isBlank = [] := List.dropWhile_eq_nil_iff.2 blank
      rw [nothing, trim, List.isEmpty_iff.1 none]
  · rw [behind, trim]

/-- The first character that trimming leaves is no blank. -/
theorem not_blank_of_head?_trim {s : Text} {c : Char} (first : (trim s).head? = some c) :
    isBlank c = false := by
  have start : (s.dropWhile isBlank).head? = some c := by
    obtain ⟨more, whole⟩ : trim s <+: s.dropWhile isBlank :=
      List.rdropWhile_prefix isBlank _
    rw [← whole, List.head?_append, first, Option.some_or]
  have stops := List.head?_dropWhile_not isBlank s
  rw [start] at stops
  simpa using stops

/-- The last character that trimming leaves is no blank. -/
theorem not_blank_of_getLast?_trim {s : Text} {c : Char} (last : (trim s).getLast? = some c) :
    isBlank c = false := by
  have start : ((s.dropWhile isBlank).reverse.dropWhile isBlank).head? = some c := by
    rwa [trim, List.getLast?_reverse] at last
  have stops := List.head?_dropWhile_not isBlank (s.dropWhile isBlank).reverse
  rw [start] at stops
  simpa using stops

/-- Trimming gives what it says: the text without the white space at its ends. -/
theorem isTrimmed_iff {s line : Text} : IsTrimmed s line ↔ trim s = line := by
  have class_eq (c : Char) : c.toNat ∉ whiteSpace ↔ isBlank c = false := by
    rw [← isBlank_iff, Bool.not_eq_true]
  constructor
  · rintro ⟨⟨front, back, rfl, frontBlank, backBlank⟩, opens, closes⟩
    simp only [← isBlank_iff] at frontBlank backBlank
    simp only [class_eq] at opens closes
    rw [trim_append_blank backBlank, trim_blank_append frontBlank, trim_eq_self opens closes]
  · rintro rfl
    refine ⟨⟨s.takeWhile isBlank, (s.dropWhile isBlank).rtakeWhile isBlank, ?_, ?_, ?_⟩, ?_, ?_⟩
    · have back : trim s ++ (s.dropWhile isBlank).rtakeWhile isBlank = s.dropWhile isBlank :=
        List.rdropWhile_append_rtakeWhile
      rw [List.append_assoc, back, List.takeWhile_append_dropWhile]
    · intro c member
      exact isBlank_iff.1 (List.mem_takeWhile_imp member)
    · intro c member
      exact isBlank_iff.1 (List.mem_rtakeWhile_imp member)
    · intro c first
      exact (class_eq c).2 (not_blank_of_head?_trim first)
    · intro c last
      exact (class_eq c).2 (not_blank_of_getLast?_trim last)

/-! ### Words need no trimming -/

theorem head?_intercalate {part : Text} (full : part ≠ []) (parts : List Text) :
    ([' '].intercalate (part :: parts)).head? = part.head? := by
  obtain ⟨c, rest, rfl⟩ := List.exists_cons_of_ne_nil full
  cases parts with
  | nil => simp
  | cons next parts => simp [List.intercalate_cons_cons]

theorem getLast?_intercalate {part : Text} (full : part ≠ []) (parts : List Text) :
    ([' '].intercalate (parts ++ [part])).getLast? = part.getLast? := by
  induction parts with
  | nil => simp
  | cons first parts ih =>
      obtain ⟨next, rest, more⟩ := List.exists_cons_of_ne_nil (l := parts ++ [part]) (by simp)
      rw [more] at ih
      have present : part.getLast?.isSome := by simpa using full
      rw [List.cons_append, more, List.intercalate_cons_cons, List.getLast?_append, ih]
      exact Option.or_of_isSome present

/-- Words with single spaces between them are trimmed. -/
theorem trim_intercalate {parts : List Text} (isWord : ∀ part ∈ parts, IsWord part) :
    trim ([' '].intercalate parts) = [' '].intercalate parts := by
  apply trim_eq_self
  · intro c first
    cases parts with
    | nil => simp at first
    | cons part parts =>
        have word := isWord part List.mem_cons_self
        rw [head?_intercalate word.ne_nil] at first
        exact word.noBlank c (List.mem_of_head? first)
  · intro c last
    rcases List.eq_nil_or_concat parts with rfl | ⟨front, part, rfl⟩
    · simp at last
    · have word := isWord part (by simp)
      rw [List.concat_eq_append, getLast?_intercalate word.ne_nil] at last
      exact word.noBlank c (List.mem_of_getLast? last)

end NodeGauge.Text
