/-
Module: NodeGauge.Proofs.Json.Grammar
Purpose: The grammar of JSON, stated of texts and apart from every reader: blanks, strings with the
  text that each of them spells, numbers, arrays, objects and values of any depth.
Main exports: Json.IsGap, Json.IsString, Json.IsNumber, Json.IsArray, Json.IsObject, Json.IsValue
-/
import Mathlib.Data.List.Forall2
import NodeGauge.Json.Compact

namespace NodeGauge.Json

/-! ### Blanks -/

/-- Blanks between two tokens, or nothing. -/
def IsGap (s : Text) : Prop := ∀ c ∈ s, c = ' ' ∨ c = '\t' ∨ c = '\n' ∨ c = '\r'

instance (s : Text) : Decidable (IsGap s) :=
  decidable_of_iff ((s.all fun c => c = ' ' || c = '\t' || c = '\n' || c = '\r') = true)
    (by simp [IsGap, or_assoc])

/-! ### Strings -/

/-- A hexadecimal digit of either case and its value. -/
def IsHexDigit (c : Char) (n : Nat) : Prop :=
  "0123456789abcdef".toList[n]? = some c ∨ "0123456789ABCDEF".toList[n]? = some c

/-- Four hexadecimal digits and the number that they make. -/
inductive IsCodeUnit : Text → Nat → Prop where
  | digits {a b c d : Char} {i j k l : Nat} (first : IsHexDigit a i) (second : IsHexDigit b j)
      (third : IsHexDigit c k) (fourth : IsHexDigit d l) :
      IsCodeUnit [a, b, c, d] (0x1000 * i + 0x100 * j + 0x10 * k + l)

/-- The escapes that are one letter long, each with the character that it stands for. -/
def letterEscapes : List (Char × Char) :=
  [('"', '"'), ('\\', '\\'), ('/', '/'), ('b', '\x08'), ('f', '\x0c'), ('n', '\n'), ('r', '\r'),
    ('t', '\t')]

/-- The ways to spell a character between the quotes of a string. -/
inductive Spells : Text → Char → Prop where
  /-- The character itself, unless it is a quote, the mark of escapes or a control. -/
  | plain {c : Char} (noQuote : c ≠ '"') (noMark : c ≠ '\\') (noControl : 0x20 ≤ c.toNat) :
      Spells [c] c
  | letter {letter c : Char} (escape : (letter, c) ∈ letterEscapes) : Spells ['\\', letter] c
  /-- A code point of four digits. -/
  | unit {digits : Text} {c : Char} (unit : IsCodeUnit digits c.toNat) :
      Spells ('\\' :: 'u' :: digits) c
  /-- A code point beyond those, by its surrogates. -/
  | pair {high low : Text} {c : Char} {i j : Nat} (first : IsCodeUnit high (0xd800 + i))
      (second : IsCodeUnit low (0xdc00 + j)) (small : i < 0x400 ∧ j < 0x400)
      (value : c.toNat = 0x10000 + (0x400 * i + j)) :
      Spells ('\\' :: 'u' :: high ++ '\\' :: 'u' :: low) c

/-- A string and the text that it spells. -/
def IsString (s text : Text) : Prop :=
  ∃ pieces : List Text, List.Forall₂ Spells pieces text ∧ s = '"' :: pieces.flatten ++ ['"']

/-- A piece of a string that need not spell a text: a surrogate may also stand alone in it. -/
inductive IsPiece : Text → Prop where
  | spelled {piece : Text} {c : Char} (spells : Spells piece c) : IsPiece piece
  | unit {digits : Text} {n : Nat} (unit : IsCodeUnit digits n) : IsPiece ('\\' :: 'u' :: digits)

/-- A string by the grammar alone, whether it spells a text or not. -/
def IsLooseString (s : Text) : Prop :=
  ∃ pieces : List Text, (∀ piece ∈ pieces, IsPiece piece) ∧ s = '"' :: pieces.flatten ++ ['"']

/-! ### Numbers -/

/-- One decimal digit or more. -/
structure IsDigits (s : Text) : Prop where
  ne_nil : s ≠ []
  digit : ∀ c ∈ s, '0' ≤ c ∧ c ≤ '9'

/-- The digits before the point, among which a leading zero stands alone. -/
inductive IsWhole : Text → Prop where
  | zero : IsWhole ['0']
  | positive {s : Text} (digits : IsDigits s) (noZero : s.head? ≠ some '0') : IsWhole s

/-- A point with digits behind it, or nothing. -/
inductive IsFraction : Text → Prop where
  | none : IsFraction []
  | some {digits : Text} (more : IsDigits digits) : IsFraction ('.' :: digits)

/-- The mark of an exponent with digits behind it, signed or not, or nothing. -/
inductive IsExponent : Text → Prop where
  | none : IsExponent []
  | some {mark : Char} {sign digits : Text} (marked : mark = 'e' ∨ mark = 'E')
      (signed : sign = [] ∨ sign = ['+'] ∨ sign = ['-']) (more : IsDigits digits) :
      IsExponent (mark :: (sign ++ digits))

/-- A number of any size. -/
inductive IsNumber : Text → Prop where
  | parts {sign whole fraction exponent : Text} (signed : sign = [] ∨ sign = ['-'])
      (isWhole : IsWhole whole) (isFraction : IsFraction fraction)
      (isExponent : IsExponent exponent) : IsNumber (sign ++ whole ++ fraction ++ exponent)

/-! ### Arrays and objects -/

/-- A value with the blanks around it. -/
structure Item where
  front : Text
  value : Text
  back : Text

/-- The text of an item. -/
def Item.text (item : Item) : Text := item.front ++ item.value ++ item.back

theorem Item.text_append (item : Item) (rest : Text) :
    item.text ++ rest = item.front ++ (item.value ++ (item.back ++ rest)) := by
  simp [Item.text]

/-- Nothing but blanks stand around the value. -/
structure Item.IsSpaced (item : Item) : Prop where
  front : IsGap item.front
  back : IsGap item.back

instance (item : Item) : Decidable item.IsSpaced :=
  decidable_of_iff (IsGap item.front ∧ IsGap item.back)
    ⟨fun ⟨front, back⟩ => ⟨front, back⟩, fun ⟨front, back⟩ => ⟨front, back⟩⟩

/-- A member of an object: a key with the blanks around it, and an item behind its colon. -/
structure Entry where
  front : Text
  key : Text
  back : Text
  item : Item

/-- The text of a member. -/
def Entry.text (entry : Entry) : Text :=
  entry.front ++ entry.key ++ entry.back ++ ':' :: entry.item.text

theorem Entry.text_append (entry : Entry) (rest : Text) :
    entry.text ++ rest =
      entry.front ++ (entry.key ++ (entry.back ++ ':' :: (entry.item.text ++ rest))) := by
  simp [Entry.text]

/-- Nothing but blanks stand around the key and around the value. -/
structure Entry.IsSpaced (entry : Entry) : Prop where
  front : IsGap entry.front
  back : IsGap entry.back
  item : entry.item.IsSpaced

instance (entry : Entry) : Decidable entry.IsSpaced :=
  decidable_of_iff (IsGap entry.front ∧ IsGap entry.back ∧ entry.item.IsSpaced)
    ⟨fun ⟨front, back, item⟩ => ⟨front, back, item⟩,
      fun ⟨front, back, item⟩ => ⟨front, back, item⟩⟩

/-- An array and its items. -/
inductive IsArray : List Item → Text → Prop where
  | empty {gap : Text} (blank : IsGap gap) : IsArray [] ('[' :: gap ++ [']'])
  | items {items : List Item} (some : items ≠ []) (spaced : ∀ item ∈ items, item.IsSpaced) :
      IsArray items (arrayText (items.map Item.text))

/-- An object and its members. -/
inductive IsObject : List Entry → Text → Prop where
  | empty {gap : Text} (blank : IsGap gap) : IsObject [] ('\x7b' :: gap ++ ['\x7d'])
  | entries {entries : List Entry} (some : entries ≠ [])
      (spaced : ∀ entry ∈ entries, entry.IsSpaced) :
      IsObject entries (objectText (entries.map Entry.text))

/-! ### Arrays and objects without blanks -/

/-- A value without blanks around it. -/
def Item.compact (value : Text) : Item := ⟨[], value, []⟩

/-- A member without blanks, whose key is written as a key is. -/
def Entry.compact (key value : Text) : Entry := ⟨[], quote key, [], .compact value⟩

@[simp] theorem Item.text_compact (value : Text) : (Item.compact value).text = value := by
  simp [Item.compact, Item.text]

@[simp] theorem Entry.text_compact (key value : Text) :
    (Entry.compact key value).text = member key value := by
  simp [Entry.compact, Entry.text, member]

theorem Item.isSpaced_compact (value : Text) : (Item.compact value).IsSpaced :=
  ⟨List.forall_mem_nil _, List.forall_mem_nil _⟩

theorem Entry.isSpaced_compact (key value : Text) : (Entry.compact key value).IsSpaced :=
  ⟨List.forall_mem_nil _, List.forall_mem_nil _, Item.isSpaced_compact value⟩

theorem IsArray.of_isSpaced {items : List Item} (spaced : ∀ item ∈ items, item.IsSpaced) :
    IsArray items (arrayText (items.map Item.text)) := by
  cases items with
  | nil => exact .empty (List.forall_mem_nil _)
  | cons item items => exact .items (List.cons_ne_nil item items) spaced

theorem isArray_arrayText (values : List Text) :
    IsArray (values.map Item.compact) (arrayText values) := by
  have spaced : ∀ item ∈ values.map Item.compact, item.IsSpaced :=
    List.forall_mem_map.2 fun value _ => Item.isSpaced_compact value
  simpa [Function.comp_def] using IsArray.of_isSpaced spaced

theorem IsObject.of_isSpaced {entries : List Entry} (spaced : ∀ entry ∈ entries, entry.IsSpaced) :
    IsObject entries (objectText (entries.map Entry.text)) := by
  cases entries with
  | nil => exact .empty (List.forall_mem_nil _)
  | cons entry entries => exact .entries (List.cons_ne_nil entry entries) spaced

/-! ### Values -/

/-- A value of any depth. -/
inductive IsValue : Text → Prop where
  | null : IsValue "null".toList
  | boolean (b : Bool) : IsValue (booleanText b)
  | number {s : Text} (number : IsNumber s) : IsValue s
  | string {s : Text} (string : IsLooseString s) : IsValue s
  | array {items : List Item} {s : Text} (array : IsArray items s)
      (values : ∀ item ∈ items, IsValue item.value) : IsValue s
  | object {entries : List Entry} {s : Text} (object : IsObject entries s)
      (keys : ∀ entry ∈ entries, IsLooseString entry.key)
      (values : ∀ entry ∈ entries, IsValue entry.item.value) : IsValue s

end NodeGauge.Json
