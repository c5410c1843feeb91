/-
Module: NodeGauge.Text.Basic
Purpose: Texts as lists of characters, cut at a mark, taken as lines, and set in order.
Main exports: Text, Text.cut, Text.cut_eq_some_iff, Text.cut_eq_none_iff, Text.lines,
  Text.distinctSorted
-/

namespace NodeGauge

/-- A text is the list of its characters.  Texts are ordered by code point, first difference
first, which is also the order of their UTF-8 octets. -/
abbrev Text := List Char

namespace Text

/-- Cut a text at the first occurrence of a mark, which belongs to neither part. -/
def cut (mark : Char) : Text → Option (Text × Text)
  | [] => none
  | c :: rest =>
      if c = mark then some ([], rest)
      else (cut mark rest).map fun (before, after) => (c :: before, after)

/-- A cut leaves the shortest front part: the mark does not occur in it. -/
theorem cut_eq_some_iff {mark : Char} {s before after : Text} :
    cut mark s = some (before, after) ↔ s = before ++ mark :: after ∧ mark ∉ before := by
  induction s generalizing before with
  | nil => simp [cut]
  | cons c rest ih =>
      by_cases h : c = mark
      · subst h
        cases before with
        | nil => simp [cut, eq_comm]
        | cons b bs =>
            simp only [cut, if_true, Option.some.injEq, Prod.mk.injEq, List.cons_append,
              List.cons.injEq, List.mem_cons, not_or]
            exact ⟨fun h => by simp at h, fun ⟨⟨hb, _⟩, hne, _⟩ => absurd hb hne⟩
      · cases before with
        | nil => simp [cut, h]
        | cons b bs =>
            simp only [cut, h, if_false, Option.map_eq_some_iff, Prod.exists, Prod.mk.injEq,
              List.cons.injEq, List.cons_append, List.mem_cons, not_or]
            constructor
            · rintro ⟨f, g, hfg, ⟨rfl, rfl⟩, rfl⟩
              exact ⟨⟨rfl, (ih.1 hfg).1⟩, fun e => h e.symm, (ih.1 hfg).2⟩
            · rintro ⟨⟨rfl, hr⟩, _, hb⟩
              exact ⟨bs, after, ih.2 ⟨hr, hb⟩, ⟨rfl, rfl⟩, rfl⟩

/-- A text without the mark cannot be cut. -/
theorem cut_eq_none_iff {mark : Char} {s : Text} : cut mark s = none ↔ mark ∉ s := by
  induction s with
  | nil => simp [cut]
  | cons c rest ih =>
      by_cases h : c = mark
      · simp [cut, h]
      · simp [cut, h, ih, Ne.symm h]

/-- A line without the carriage return at its end. -/
def withoutReturn (line : Text) : Text :=
  if line.getLast? = some '\r' then line.dropLast else line

/-- The lines of a text.  Each ends in a line feed, with a carriage return before it or without,
and what stands behind the last line feed is a line if it is not empty. -/
def lines (s : Text) : List Text :=
  let pieces := s.splitOn '\n'
  let last := pieces.getLastD []
  pieces.dropLast.map withoutReturn ++ if last.isEmpty then [] else [last]

/-- The texts of a list in ascending order, each once. -/
def distinctSorted (texts : List Text) : List Text :=
  (texts.mergeSort fun a b => !decide (b < a)).eraseReps

end Text

end NodeGauge
