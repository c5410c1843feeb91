/-
Module: NodeGauge.Proofs.Json.Reader
Purpose: What it means that a value is read from a text, behind blanks or not and whatever follows,
  and that single values are.
Main exports: Json.Reads, Json.StartsValue, Json.ReadsAnywhere, Json.readsAnywhere_write,
  Json.readsAnywhere_booleanText, Json.IsString.readsAnywhere
-/
import NodeGauge.Proofs.Json.Numeral
import NodeGauge.Proofs.Json.Quote

namespace NodeGauge.Json

open Numeral (isDigit)

/-- A reader takes this value from this text, whatever follows that does not go on with a number. -/
def Reads {α : Type} (reader : Text → Except Fault (α × Text)) (written : Text) (v : α) : Prop :=
  ∀ rest, EndsNumber rest → reader (written ++ rest) = .ok (v, rest)

/-! ### The parts of arrays and objects -/

/-- The first part stands in front, and a comma in front of each further one. -/
theorem intercalate_cons (part : Text) (parts : List Text) :
    [','].intercalate (part :: parts) = part ++ parts.flatMap (',' :: ·) := by
  induction parts generalizing part with
  | nil => simp
  | cons next parts ih =>
      rw [List.intercalate_cons_cons, ih, List.flatMap_cons]
      simp

/-- What stands behind the first part of an array or an object: further parts, each behind a comma,
the bracket that closes the whole, and the rest of the text. -/
def further (parts : List Text) (close : Char) (rest : Text) : Text :=
  parts.flatMap (',' :: ·) ++ close :: rest

theorem further_cons (part : Text) (parts : List Text) (close : Char) (rest : Text) :
    further (part :: parts) close rest = ',' :: (part ++ further parts close rest) := by
  simp [further]

theorem arrayText_append (first : Text) (others : List Text) (rest : Text) :
    arrayText (first :: others) ++ rest = '[' :: (first ++ further others ']' rest) := by
  simp [arrayText, further, intercalate_cons]

theorem objectText_append (first : Text) (others : List Text) (rest : Text) :
    objectText (first :: others) ++ rest = '\x7b' :: (first ++ further others '\x7d' rest) := by
  simp [objectText, further, intercalate_cons]

/-- Further parts end a number in front of them, since a comma or the end comes next. -/
theorem endsNumber_further (parts : List Text) {close : Char}
    (closes : close = ']' ∨ close = '\x7d') (rest : Text) :
    EndsNumber (further parts close rest) := by
  cases parts with
  | nil => rcases closes with rfl | rfl <;> exact endsNumber_cons (by decide) (by decide) rest
  | cons part parts => exact endsNumber_cons (by decide) (by decide) _

/-! ### Blanks -/

theorem IsGap.isBlank {gap : Text} (blank : IsGap gap) : ∀ c ∈ gap, isBlank c = true := by
  intro c member
  rcases blank c member with rfl | rfl | rfl | rfl <;> rfl

theorem IsGap.tail {c : Char} {gap : Text} (blank : IsGap (c :: gap)) : IsGap gap :=
  fun d member => blank d (List.mem_cons_of_mem c member)

/-- Blanks end a number, and what ends a number does so behind blanks too. -/
theorem IsGap.endsNumber {gap rest : Text} (blank : IsGap gap) (ends : EndsNumber rest) :
    EndsNumber (gap ++ rest) := by
  cases gap with
  | nil => exact ends
  | cons c gap =>
      rcases blank c List.mem_cons_self with rfl | rfl | rfl | rfl
      all_goals exact endsNumber_cons (by decide) (by decide) _

theorem skipBlank_gap {gap : Text} (blank : IsGap gap) (s : Text) :
    skipBlank (gap ++ s) = skipBlank s :=
  List.dropWhile_append_of_pos blank.isBlank

/-! ### What values start with -/

/-- A text that starts with a token, which is not the end of an array. -/
def StartsValue (s : Text) : Prop := ∃ c tail, s = c :: tail ∧ isBlank c = false ∧ c ≠ ']'

theorem StartsValue.append {s : Text} (starts : StartsValue s) (rest : Text) :
    StartsValue (s ++ rest) := by
  obtain ⟨c, tail, rfl, shown, notEnd⟩ := starts
  exact ⟨c, tail ++ rest, rfl, shown, notEnd⟩

theorem startsValue_booleanText (b : Bool) : StartsValue (booleanText b) := by
  cases b with
  | true => exact ⟨'t', _, rfl, by decide, by decide⟩
  | false => exact ⟨'f', _, rfl, by decide, by decide⟩

theorem startsValue_objectText (members : List Text) : StartsValue (objectText members) :=
  ⟨'\x7b', _, rfl, by decide, by decide⟩

theorem IsDigits.isDigit {s : Text} (digits : IsDigits s) : ∀ c ∈ s, isDigit c = true :=
  fun c member => Numeral.isDigit_iff.2 (digits.digit c member)

theorem IsString.isLooseString {s text : Text} (string : IsString s text) : IsLooseString s := by
  obtain ⟨pieces, spells, rfl⟩ := string
  refine ⟨pieces, ?_, rfl⟩
  induction spells with
  | nil => exact List.forall_mem_nil _
  | cons first _ ih => exact List.forall_mem_cons.2 ⟨.spelled first, ih⟩

theorem IsLooseString.startsValue {s : Text} (string : IsLooseString s) : StartsValue s := by
  obtain ⟨pieces, _, rfl⟩ := string
  exact ⟨'"', _, rfl, by decide, by decide⟩

theorem startsValue_of_isDigit {s : Text} {c : Char} (digit : isDigit c = true) :
    StartsValue (c :: s) := by
  refine ⟨c, s, rfl, isBlank_of_isDigit digit, ?_⟩
  rintro rfl
  exact absurd digit (by decide)

theorem IsWhole.startsValue {s : Text} (whole : IsWhole s) : StartsValue s := by
  cases whole with
  | zero => exact startsValue_of_isDigit (by decide)
  | positive digits =>
      obtain ⟨c, tail, rfl⟩ := List.exists_cons_of_ne_nil digits.ne_nil
      exact startsValue_of_isDigit (digits.isDigit c List.mem_cons_self)

theorem IsNumber.startsValue {s : Text} (number : IsNumber s) : StartsValue s := by
  cases number with
  | parts signed isWhole _ _ =>
      rcases signed with rfl | rfl
      · exact (isWhole.startsValue.append _).append _
      · exact ⟨'-', _, rfl, by decide, by decide⟩

theorem IsArray.startsValue {items : List Item} {s : Text} (array : IsArray items s) :
    StartsValue s := by
  cases array with
  | empty => exact ⟨'[', _, rfl, by decide, by decide⟩
  | items => exact ⟨'[', _, rfl, by decide, by decide⟩

theorem IsObject.startsValue {entries : List Entry} {s : Text} (object : IsObject entries s) :
    StartsValue s := by
  cases object with
  | empty => exact ⟨'\x7b', _, rfl, by decide, by decide⟩
  | entries => exact startsValue_objectText _

theorem IsValue.startsValue {s : Text} (value : IsValue s) : StartsValue s := by
  cases value with
  | null => exact ⟨'n', _, rfl, by decide, by decide⟩
  | boolean b => exact startsValue_booleanText b
  | number number => exact number.startsValue
  | string string => exact string.startsValue
  | array array => exact array.startsValue
  | object object => exact object.startsValue

/-! ### Values behind blanks -/

/-- A reader takes this value from this text, behind any blanks and whatever follows that does not
go on with a number. -/
structure ReadsAnywhere {α : Type} (reader : Text → Except Fault (α × Text)) (s : Text) (v : α) :
    Prop where
  starts : StartsValue s
  reads : ∀ gap rest, IsGap gap → EndsNumber rest → reader (gap ++ (s ++ rest)) = .ok (v, rest)

/-- A reader that looks for its first token takes a value behind blanks as it does elsewhere. -/
theorem Reads.anywhere {α : Type} {reader : Text → Except Fault (α × Text)} {s : Text} {v : α}
    (reads : Reads reader s v) (starts : StartsValue s)
    (skips : ∀ gap s, IsGap gap → reader (gap ++ s) = reader s) : ReadsAnywhere reader s v where
  starts := starts
  reads gap rest blank ends := by rw [skips gap _ blank, reads rest ends]

theorem ReadsAnywhere.toReads {α : Type} {reader : Text → Except Fault (α × Text)} {s : Text}
    {v : α} (reads : ReadsAnywhere reader s v) : Reads reader s v :=
  fun rest ends => reads.reads [] rest (List.forall_mem_nil _) ends

theorem ReadsAnywhere.map {α β : Type} {reader : Text → Except Fault (α × Text)} {s : Text} {v : α}
    (reads : ReadsAnywhere reader s v) (f : α → β) :
    ReadsAnywhere (fun s => (reader s).map fun (v, rest) => (f v, rest)) s (f v) where
  starts := reads.starts
  reads gap rest blank ends := by
    rw [reads.reads gap rest blank ends]
    rfl

/-- A value with blanks around it is read as the whole of its text. -/
theorem ReadsAnywhere.readWhole {α : Type} {reader : Text → Except Fault (α × Text)} {s : Text}
    {v : α} (reads : ReadsAnywhere reader s v) {front back : Text} (before : IsGap front)
    (behind : IsGap back) : readWhole reader (front ++ s ++ back) = .ok v := by
  have ends : EndsNumber back := by
    have nothing := behind.endsNumber endsNumber_nil
    rwa [List.append_nil] at nothing
  have nothing : skipBlank back = [] := by
    have none := skipBlank_gap behind []
    rwa [List.append_nil] at none
  rw [List.append_assoc, Json.readWhole, reads.reads front back before ends]
  simp [nothing]

/-- A value that is written alone is read as the whole of its text. -/
theorem ReadsAnywhere.readWhole_alone {α : Type} {reader : Text → Except Fault (α × Text)}
    {s : Text} {v : α} (reads : ReadsAnywhere reader s v) : Json.readWhole reader s = .ok v := by
  have nothing : IsGap [] := List.forall_mem_nil _
  have read := reads.readWhole nothing nothing
  rwa [List.nil_append, List.append_nil] at read

/-! ### Single values -/

theorem reads_write (n : UInt64) : Reads readNatural (Numeral.write n) n :=
  fun _ ends => readNatural_write n ends

theorem readWord_append (letters rest : Text) : readWord letters (letters ++ rest) = .ok rest := by
  induction letters with
  | nil => rfl
  | cons letter letters ih =>
      rw [List.cons_append, readWord, if_pos rfl]
      exact ih

theorem reads_booleanText (b : Bool) : Reads readBoolean (booleanText b) b := by
  intro rest _
  cases b with
  | true =>
      have word := readWord_append ['r', 'u', 'e'] rest
      exact congrArg (Except.map fun rest => (true, rest)) word
  | false =>
      have word := readWord_append ['a', 'l', 's', 'e'] rest
      exact congrArg (Except.map fun rest => (false, rest)) word

theorem readNatural_gap (gap s : Text) (blank : IsGap gap) :
    readNatural (gap ++ s) = readNatural s := by
  rw [readNatural, readNatural, skipBlank_gap blank]

theorem readBoolean_gap (gap s : Text) (blank : IsGap gap) :
    readBoolean (gap ++ s) = readBoolean s := by
  rw [readBoolean, readBoolean, skipBlank_gap blank]

theorem readText_gap (gap s : Text) (blank : IsGap gap) : readText (gap ++ s) = readText s := by
  rw [readText, readText, skipBlank_gap blank]

theorem startsValue_write (n : UInt64) : StartsValue (Numeral.write n) := by
  obtain ⟨d, tail, front⟩ := List.exists_cons_of_ne_nil (Numeral.ofNat_ne_nil n.toNat)
  have digit : Numeral.isDigit d = true := by
    apply Numeral.isDigit_of_mem_ofNat (n := n.toNat)
    rw [front]
    exact List.mem_cons_self
  rw [Numeral.write, front]
  exact startsValue_of_isDigit digit

theorem readsAnywhere_write (n : UInt64) : ReadsAnywhere readNatural (Numeral.write n) n :=
  (reads_write n).anywhere (startsValue_write n) readNatural_gap

theorem readsAnywhere_booleanText (b : Bool) : ReadsAnywhere readBoolean (booleanText b) b :=
  (reads_booleanText b).anywhere (startsValue_booleanText b) readBoolean_gap

theorem IsString.readsAnywhere {s text : Text} (string : IsString s text) :
    ReadsAnywhere readText s text := by
  refine Reads.anywhere ?_ string.isLooseString.startsValue readText_gap
  intro rest _
  obtain ⟨body, rfl, read⟩ := string.exists_body
  exact read rest

end NodeGauge.Json
