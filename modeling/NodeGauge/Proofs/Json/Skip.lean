/-
Module: NodeGauge.Proofs.Json.Skip
Purpose: The machine that passes over values takes exactly a value off the front of a text, whatever
  the value is, however deep it is, and whatever brackets it stands in.
Main exports: Json.resume, Json.IsSkipped, Json.IsValue.isSkipped, Json.IsValue.skipValue
-/
import NodeGauge.Proofs.Json.Reader

namespace NodeGauge.Json

open Numeral (isDigit)

/-- What the machine does behind a value: it is done if the value stands in no bracket, and goes on
inside the innermost bracket otherwise. -/
def resume : List Bracket → Text → Except Fault Text
  | [], rest => .ok rest
  | brackets, rest => skipFrom .more brackets rest

section moves

variable {expecting : Expecting} {brackets : List Bracket} {c : Char} {rest : Text}

theorem skipFrom_go (next : Expecting) (inner : List Bracket)
    (move : expecting.step brackets c = .go next inner) :
    skipFrom expecting brackets (c :: rest) = skipFrom next inner rest := by
  simp only [skipFrom, move]

theorem skipFrom_close {inner : List Bracket}
    (move : expecting.step brackets c = Expecting.close inner) :
    skipFrom expecting brackets (c :: rest) = resume inner rest := by
  cases inner with
  | nil => simp only [skipFrom, move, Expecting.close, resume]
  | cons bracket outer => simp only [skipFrom, move, Expecting.close, resume]

end moves

/-! ### Blanks -/

/-- Whether the machine stands between two tokens. -/
def Expecting.isBetween : Expecting → Bool
  | value | firstItem | firstKey | key | colon | more => true
  | _ => false

theorem step_more_blank (brackets : List Bracket) {c : Char} (blank : isBlank c = true) :
    Expecting.step .more brackets c = .go .more brackets := by
  simp only [isBlank, Bool.or_eq_true, beq_iff_eq] at blank
  rcases blank with ((rfl | rfl) | rfl) | rfl
  all_goals
    cases brackets with
    | nil => rfl
    | cons bracket outer =>
        cases bracket with
        | array => rfl
        | object => rfl

/-- A blank between two tokens changes nothing. -/
theorem step_blank {expecting : Expecting} (between : expecting.isBetween = true)
    (brackets : List Bracket) {c : Char} (blank : isBlank c = true) :
    expecting.step brackets c = .go expecting brackets := by
  cases expecting with
  | value | firstItem | firstKey | key | colon => exact if_pos blank
  | more => exact step_more_blank brackets blank
  | _ => cases between

theorem skipFrom_gap {expecting : Expecting} (between : expecting.isBetween = true)
    (brackets : List Bracket) {gap : Text} (blank : IsGap gap) (rest : Text) :
    skipFrom expecting brackets (gap ++ rest) = skipFrom expecting brackets rest := by
  induction gap with
  | nil => rfl
  | cons c gap ih =>
      have move := step_blank between brackets (blank.isBlank c List.mem_cons_self)
      rw [List.cons_append, skipFrom_go _ _ move, ih blank.tail]

/-! ### Words and strings -/

theorem skipFrom_word (brackets : List Bracket) {letters : Text} (some : letters ≠ [])
    (rest : Text) : skipFrom (.word letters) brackets (letters ++ rest) = resume brackets rest := by
  induction letters with
  | nil => exact absurd rfl some
  | cons letter letters ih =>
      cases letters with
      | nil => exact skipFrom_close (if_pos rfl)
      | cons next letters =>
          have move : Expecting.step (.word (letter :: next :: letters)) brackets letter =
              .go (.word (next :: letters)) brackets := if_pos rfl
          rw [List.cons_append, skipFrom_go _ _ move]
          exact ih (List.cons_ne_nil next letters)

theorem skipFrom_unit (isKey : Bool) (brackets : List Bracket) {digits : Text} {n : Nat}
    (unit : IsCodeUnit digits n) (rest : Text) :
    skipFrom (.unit isKey 4) brackets (digits ++ rest) = skipFrom (.text isKey) brackets rest := by
  cases unit with
  | digits first second third fourth =>
      have digit {c : Char} {i : Nat} (digit : IsHexDigit c i) (left : Nat) :
          Expecting.step (.unit isKey left) brackets c =
            if left ≤ 1 then .go (.text isKey) brackets
            else .go (.unit isKey (left - 1)) brackets := by
        simp [Expecting.step, digit.value]
      simp only [List.cons_append, List.nil_append]
      rw [skipFrom_go _ _ (digit first 4), skipFrom_go _ _ (digit second 3),
        skipFrom_go _ _ (digit third 2), skipFrom_go _ _ (digit fourth 1)]

theorem skipFrom_escaped_unit (isKey : Bool) (brackets : List Bracket) {digits : Text} {n : Nat}
    (unit : IsCodeUnit digits n) (rest : Text) :
    skipFrom (.text isKey) brackets ('\\' :: 'u' :: (digits ++ rest)) =
      skipFrom (.text isKey) brackets rest := by
  rw [skipFrom_go (.escape isKey) brackets rfl,
    skipFrom_go (.unit isKey 4) brackets rfl, skipFrom_unit _ _ unit]

theorem skipFrom_spells (isKey : Bool) (brackets : List Bracket) {piece : Text} {c : Char}
    (spells : Spells piece c) (rest : Text) :
    skipFrom (.text isKey) brackets (piece ++ rest) = skipFrom (.text isKey) brackets rest := by
  cases spells with
  | plain noQuote noMark noControl =>
      refine skipFrom_go _ _ ?_
      simp only [Expecting.step, if_neg noQuote, if_neg noMark, if_neg (Nat.not_lt.2 noControl)]
  | @letter letter _ escape =>
      have short : ∀ e ∈ letterEscapes, e.1 ≠ 'u' ∧ (shortEscape? e.1).isSome = true := by decide
      have ⟨noUnit, known⟩ := short _ escape
      have move : Expecting.step (.escape isKey) brackets letter = .go (.text isKey) brackets := by
        simp only [Expecting.step, if_neg noUnit, if_pos known]
      rw [List.cons_append, List.cons_append,
        skipFrom_go (.escape isKey) brackets rfl, skipFrom_go _ _ move]
      rfl
  | unit unit => exact skipFrom_escaped_unit isKey brackets unit rest
  | pair first second =>
      simp only [List.append_assoc, List.cons_append]
      rw [skipFrom_escaped_unit isKey brackets first, skipFrom_escaped_unit isKey brackets second]

theorem skipFrom_piece (isKey : Bool) (brackets : List Bracket) {piece : Text}
    (isPiece : IsPiece piece) (rest : Text) :
    skipFrom (.text isKey) brackets (piece ++ rest) = skipFrom (.text isKey) brackets rest := by
  cases isPiece with
  | spelled spells => exact skipFrom_spells isKey brackets spells rest
  | unit unit => exact skipFrom_escaped_unit isKey brackets unit rest

theorem skipFrom_pieces (isKey : Bool) (brackets : List Bracket) {pieces : List Text}
    (arePieces : ∀ piece ∈ pieces, IsPiece piece) (rest : Text) :
    skipFrom (.text isKey) brackets (pieces.flatten ++ rest) =
      skipFrom (.text isKey) brackets rest := by
  induction pieces with
  | nil => rfl
  | cons piece pieces ih =>
      rw [List.forall_mem_cons] at arePieces
      rw [List.flatten_cons, List.append_assoc, skipFrom_piece isKey brackets arePieces.1,
        ih arePieces.2]

/-- A string that is a value is taken whole, with its quotes. -/
theorem skipFrom_string (brackets : List Bracket) {s : Text} (string : IsLooseString s)
    (rest : Text) : skipFrom .value brackets (s ++ rest) = resume brackets rest := by
  obtain ⟨pieces, arePieces, rfl⟩ := string
  rw [List.cons_append, List.cons_append, List.append_assoc,
    skipFrom_go (.text false) brackets rfl,
    skipFrom_pieces false brackets arePieces]
  exact skipFrom_close rfl

/-- A key is taken whole where one is expected, and a colon is expected behind it. -/
theorem skipFrom_key {expecting : Expecting} (expected : expecting = .firstKey ∨ expecting = .key)
    (brackets : List Bracket) {s : Text} (string : IsLooseString s) (rest : Text) :
    skipFrom expecting brackets (s ++ rest) = skipFrom .colon brackets rest := by
  obtain ⟨pieces, arePieces, rfl⟩ := string
  have opening : expecting.step brackets '"' = .go (.text true) brackets := by
    rcases expected with rfl | rfl <;> rfl
  rw [List.cons_append, List.cons_append, List.append_assoc, skipFrom_go _ _ opening,
    skipFrom_pieces true brackets arePieces]
  exact skipFrom_go _ _ rfl

/-!
### Numbers

The lemmas go from the back of a number to its front: each is about one part with all that stands
behind it, in the states in which that part may come.
-/

/-- Behind the first digit of a run the machine takes all others. -/
theorem skipFrom_digits {expecting : Expecting} {brackets : List Bracket} {digits : Text}
    (areDigits : ∀ c ∈ digits, isDigit c = true) (rest : Text)
    (stays : ∀ c, isDigit c = true → expecting.step brackets c = .go expecting brackets) :
    skipFrom expecting brackets (digits ++ rest) = skipFrom expecting brackets rest := by
  induction digits with
  | nil => rfl
  | cons c digits ih =>
      rw [List.forall_mem_cons] at areDigits
      rw [List.cons_append, skipFrom_go _ _ (stays c areDigits.1), ih areDigits.2]

/-- A number is left at the first character that does not go on with it. -/
theorem skipFrom_endsNumber {expecting : Expecting} (behind : expecting.endsNumber = true)
    (brackets : List Bracket) {rest : Text} (ends : EndsNumber rest) :
    skipFrom expecting brackets rest = resume brackets rest := by
  cases rest with
  | nil =>
      cases expecting with
      | afterZero | wholeDigits | fractionDigits | exponentDigits =>
          cases brackets with
          | nil => rfl
          | cons bracket outer => rfl
      | _ => cases behind
  | cons c rest =>
      have noDigit := ends.noDigit c rest rfl
      have ⟨noSmall, noCapital⟩ := ends.noExponent c rest rfl
      have noPoint : c ≠ '.' := by
        rintro rfl
        exact ends.noPoint rest rfl
      have leaves : expecting.step brackets c = Expecting.leave brackets c := by
        cases expecting with
        | afterZero | wholeDigits | fractionDigits | exponentDigits =>
            simp [Expecting.step, Expecting.exponentOrLeave, noDigit, noPoint, noSmall, noCapital]
        | _ => cases behind
      cases brackets with
      | nil => simp only [skipFrom, leaves, Expecting.leave, List.isEmpty_nil, if_true, resume]
      | cons bracket outer =>
          have refusal : expecting.refusal (c :: rest) = .malformed := by
            cases expecting with
            | afterZero | wholeDigits | fractionDigits | exponentDigits => rfl
            | _ => cases behind
          have follows : expecting.step (bracket :: outer) c =
              Expecting.step .more (bracket :: outer) c := leaves
          rw [resume, skipFrom, skipFrom, follows, refusal]
          · rfl
          · exact List.cons_ne_nil bracket outer

section number

variable (brackets : List Bracket) {rest : Text}

/-- Digits behind a point or in an exponent: the first one is taken where one must stand, and the
others behind it. -/
theorem skipFrom_run {first others : Expecting} {digits : Text} (run : IsDigits digits)
    (starts : ∀ c, isDigit c = true → first.step brackets c = .go others brackets)
    (stays : ∀ c, isDigit c = true → others.step brackets c = .go others brackets) :
    skipFrom first brackets (digits ++ rest) = skipFrom others brackets rest := by
  obtain ⟨c, digits, rfl⟩ := List.exists_cons_of_ne_nil run.ne_nil
  have areDigits := run.isDigit
  rw [List.forall_mem_cons] at areDigits
  rw [List.cons_append, skipFrom_go _ _ (starts c areDigits.1),
    skipFrom_digits areDigits.2 rest stays]

theorem skipFrom_exponent {expecting : Expecting}
    (behind : expecting = .afterZero ∨ expecting = .wholeDigits ∨ expecting = .fractionDigits)
    {exponent : Text} (isExponent : IsExponent exponent) (ends : EndsNumber rest) :
    skipFrom expecting brackets (exponent ++ rest) = resume brackets rest := by
  cases isExponent with
  | none =>
      refine skipFrom_endsNumber ?_ brackets ends
      rcases behind with rfl | rfl | rfl <;> rfl
  | @some mark sign digits marked signed more =>
      have move : expecting.step brackets mark = .go .exponentSign brackets := by
        rcases behind with rfl | rfl | rfl <;> rcases marked with rfl | rfl <;> rfl
      have stays (c : Char) (digit : isDigit c = true) :
          Expecting.step .exponentDigits brackets c = .go .exponentDigits brackets := if_pos digit
      have value : skipFrom .exponentSign brackets (sign ++ digits ++ rest) =
          skipFrom .exponentDigits brackets rest := by
        rcases signed with rfl | rfl | rfl
        · refine skipFrom_run brackets more (fun c digit => ?_) stays
          have noSign : ¬ (c = '+' || c = '-') = true := by
            simp only [Bool.or_eq_true, decide_eq_true_eq]
            rintro (rfl | rfl) <;> exact absurd digit (by decide)
          simp only [Expecting.step, if_neg noSign, if_pos digit]
        · rw [List.append_assoc, List.singleton_append,
            skipFrom_go .firstExponent brackets rfl]
          exact skipFrom_run brackets more (fun c digit => if_pos digit) stays
        · rw [List.append_assoc, List.singleton_append,
            skipFrom_go .firstExponent brackets rfl]
          exact skipFrom_run brackets more (fun c digit => if_pos digit) stays
      rw [List.cons_append, skipFrom_go _ _ move, value]
      exact skipFrom_endsNumber rfl brackets ends

theorem skipFrom_fraction {expecting : Expecting}
    (behind : expecting = .afterZero ∨ expecting = .wholeDigits) {fraction exponent : Text}
    (isFraction : IsFraction fraction) (isExponent : IsExponent exponent)
    (ends : EndsNumber rest) :
    skipFrom expecting brackets (fraction ++ exponent ++ rest) = resume brackets rest := by
  cases isFraction with
  | none => exact skipFrom_exponent brackets (behind.imp_right .inl) isExponent ends
  | @some digits more =>
      have move : expecting.step brackets '.' = .go .firstFraction brackets := by
        rcases behind with rfl | rfl <;> rfl
      have starts (c : Char) (digit : isDigit c = true) :
          Expecting.step .firstFraction brackets c = .go .fractionDigits brackets := if_pos digit
      have stays (c : Char) (digit : isDigit c = true) :
          Expecting.step .fractionDigits brackets c = .go .fractionDigits brackets := if_pos digit
      rw [List.cons_append, List.cons_append, skipFrom_go _ _ move, List.append_assoc,
        skipFrom_run brackets more starts stays]
      exact skipFrom_exponent brackets (.inr (.inr rfl)) isExponent ends

/-- Where a number may start, digits other than a leading zero are taken as its whole part. -/
theorem step_positive {expecting : Expecting}
    (expected : expecting = .value ∨ expecting = .firstDigit) {c : Char}
    (digit : isDigit c = true) (noZero : c ≠ '0') :
    expecting.step brackets c = .go .wholeDigits brackets := by
  have noBlank := isBlank_of_isDigit digit
  rcases expected with rfl | rfl
  · simp only [Expecting.step, noBlank, Bool.false_eq_true, if_false, Expecting.start]
    split
    all_goals first | exact absurd digit (by decide) | exact absurd rfl noZero | exact if_pos digit
  · simp only [Expecting.step, if_neg noZero, if_pos digit]

theorem skipFrom_unsigned {expecting : Expecting}
    (expected : expecting = .value ∨ expecting = .firstDigit) {whole fraction exponent : Text}
    (isWhole : IsWhole whole) (isFraction : IsFraction fraction)
    (isExponent : IsExponent exponent) (ends : EndsNumber rest) :
    skipFrom expecting brackets (whole ++ (fraction ++ exponent ++ rest)) =
      resume brackets rest := by
  cases isWhole with
  | zero =>
      have move : expecting.step brackets '0' = .go .afterZero brackets := by
        rcases expected with rfl | rfl <;> rfl
      rw [List.singleton_append, skipFrom_go _ _ move]
      exact skipFrom_fraction brackets (.inl rfl) isFraction isExponent ends
  | positive digits noZero =>
      obtain ⟨c, tail, rfl⟩ := List.exists_cons_of_ne_nil digits.ne_nil
      have areDigits := digits.isDigit
      rw [List.forall_mem_cons] at areDigits
      have move := step_positive brackets expected areDigits.1 fun zero => noZero (by simp [zero])
      have stays (c : Char) (digit : isDigit c = true) :
          Expecting.step .wholeDigits brackets c = .go .wholeDigits brackets := by
        have noPoint : c ≠ '.' := by
          rintro rfl
          exact absurd digit (by decide)
        simp only [Expecting.step, if_neg noPoint, if_pos digit]
      rw [List.cons_append, skipFrom_go _ _ move, skipFrom_digits areDigits.2 _ stays]
      exact skipFrom_fraction brackets (.inr rfl) isFraction isExponent ends

theorem skipFrom_number {s : Text} (number : IsNumber s) (ends : EndsNumber rest) :
    skipFrom .value brackets (s ++ rest) = resume brackets rest := by
  cases number with
  | @parts sign whole fraction exponent signed isWhole isFraction isExponent =>
      have layout : sign ++ whole ++ fraction ++ exponent ++ rest =
          sign ++ (whole ++ (fraction ++ exponent ++ rest)) := by
        simp only [List.append_assoc]
      rw [layout]
      rcases signed with rfl | rfl
      · exact skipFrom_unsigned brackets (.inl rfl) isWhole isFraction isExponent ends
      · rw [List.singleton_append, skipFrom_go .firstDigit brackets rfl]
        exact skipFrom_unsigned brackets (.inr rfl) isWhole isFraction isExponent ends

end number

/-! ### Arrays and objects -/

/-- The machine takes this text as a value, inside any brackets. -/
def IsSkipped (s : Text) : Prop :=
  ∀ brackets rest, EndsNumber rest → skipFrom .value brackets (s ++ rest) = resume brackets rest

section items

variable {item : Item} {rest : Text}

theorem Item.skipFrom_value (spaced : item.IsSpaced) (skipped : IsSkipped item.value)
    (bracket : Bracket) (outer : List Bracket) (ends : EndsNumber rest) :
    skipFrom .value (bracket :: outer) (item.text ++ rest) =
      skipFrom .more (bracket :: outer) rest := by
  rw [Item.text_append, skipFrom_gap rfl _ spaced.front,
    skipped _ _ (spaced.back.endsNumber ends)]
  exact skipFrom_gap rfl _ spaced.back rest

/-- Where the end of an array might stand, a value is taken as it is anywhere else. -/
theorem Item.skipFrom_firstItem (spaced : item.IsSpaced) (starts : StartsValue item.value)
    (brackets : List Bracket) :
    skipFrom .firstItem brackets (item.text ++ rest) =
      skipFrom .value brackets (item.text ++ rest) := by
  obtain ⟨c, tail, front, shown, notEnd⟩ := starts
  have same : Expecting.step .firstItem brackets c = Expecting.step .value brackets c := by
    simp only [Expecting.step, shown, Bool.false_eq_true, if_false, if_neg notEnd]
  rw [Item.text_append, skipFrom_gap rfl _ spaced.front,
    skipFrom_gap rfl _ spaced.front, front, List.cons_append, skipFrom, skipFrom, same]
  rfl

/-- Further items, each behind a comma, are taken up to the end of their array. -/
theorem skipFrom_items {items : List Item} (spaced : ∀ item ∈ items, item.IsSpaced)
    (skipped : ∀ item ∈ items, IsSkipped item.value) (outer : List Bracket) (rest : Text) :
    skipFrom .more (.array :: outer) (further (items.map Item.text) ']' rest) =
      resume outer rest := by
  induction items with
  | nil => exact skipFrom_close rfl
  | cons item items ih =>
      rw [List.forall_mem_cons] at spaced skipped
      have ends := endsNumber_further (items.map Item.text) (.inl rfl) rest
      rw [List.map_cons, further_cons, skipFrom_go .value (.array :: outer) rfl,
        Item.skipFrom_value spaced.1 skipped.1 .array outer ends]
      exact ih spaced.2 skipped.2

theorem IsArray.isSkipped {items : List Item} {s : Text} (array : IsArray items s)
    (starts : ∀ item ∈ items, StartsValue item.value)
    (skipped : ∀ item ∈ items, IsSkipped item.value) : IsSkipped s := by
  intro brackets rest _
  cases array with
  | @empty gap blank =>
      rw [List.cons_append, List.cons_append, List.append_assoc,
        skipFrom_go .firstItem (.array :: brackets) rfl,
        skipFrom_gap rfl _ blank]
      exact skipFrom_close rfl
  | items some spaced =>
      obtain ⟨first, others, rfl⟩ := List.exists_cons_of_ne_nil some
      rw [List.forall_mem_cons] at starts skipped spaced
      have ends := endsNumber_further (others.map Item.text) (.inl rfl) rest
      rw [List.map_cons, arrayText_append, skipFrom_go .firstItem (.array :: brackets) rfl,
        Item.skipFrom_firstItem spaced.1 starts.1,
        Item.skipFrom_value spaced.1 skipped.1 .array brackets ends]
      exact skipFrom_items spaced.2 skipped.2 brackets rest

end items

section entries

variable {entry : Entry} {rest : Text}

theorem Entry.skipFrom_key {expecting : Expecting}
    (expected : expecting = .firstKey ∨ expecting = .key) (spaced : entry.IsSpaced)
    (key : IsLooseString entry.key) (skipped : IsSkipped entry.item.value)
    (outer : List Bracket) (ends : EndsNumber rest) :
    skipFrom expecting (.object :: outer) (entry.text ++ rest) =
      skipFrom .more (.object :: outer) rest := by
  have between : expecting.isBetween = true := by
    rcases expected with rfl | rfl <;> rfl
  rw [Entry.text_append, skipFrom_gap between _ spaced.front, Json.skipFrom_key expected _ key,
    skipFrom_gap rfl _ spaced.back,
    skipFrom_go .value (.object :: outer) rfl]
  exact Item.skipFrom_value spaced.item skipped .object outer ends

/-- Further members, each behind a comma, are taken up to the end of their object. -/
theorem skipFrom_entries {entries : List Entry} (spaced : ∀ entry ∈ entries, entry.IsSpaced)
    (keys : ∀ entry ∈ entries, IsLooseString entry.key)
    (skipped : ∀ entry ∈ entries, IsSkipped entry.item.value) (outer : List Bracket)
    (rest : Text) :
    skipFrom .more (.object :: outer) (further (entries.map Entry.text) '\x7d' rest) =
      resume outer rest := by
  induction entries with
  | nil => exact skipFrom_close rfl
  | cons entry entries ih =>
      rw [List.forall_mem_cons] at spaced keys skipped
      have ends := endsNumber_further (entries.map Entry.text) (.inr rfl) rest
      rw [List.map_cons, further_cons, skipFrom_go .key (.object :: outer) rfl,
        Entry.skipFrom_key (.inr rfl) spaced.1 keys.1 skipped.1 outer ends]
      exact ih spaced.2 keys.2 skipped.2

theorem IsObject.isSkipped {entries : List Entry} {s : Text} (object : IsObject entries s)
    (keys : ∀ entry ∈ entries, IsLooseString entry.key)
    (skipped : ∀ entry ∈ entries, IsSkipped entry.item.value) : IsSkipped s := by
  intro brackets rest _
  cases object with
  | @empty gap blank =>
      rw [List.cons_append, List.cons_append, List.append_assoc,
        skipFrom_go .firstKey (.object :: brackets) rfl,
        skipFrom_gap rfl _ blank]
      exact skipFrom_close rfl
  | entries some spaced =>
      obtain ⟨first, others, rfl⟩ := List.exists_cons_of_ne_nil some
      rw [List.forall_mem_cons] at keys skipped spaced
      have ends := endsNumber_further (others.map Entry.text) (.inr rfl) rest
      rw [List.map_cons, objectText_append, skipFrom_go .firstKey (.object :: brackets) rfl,
        Entry.skipFrom_key (.inl rfl) spaced.1 keys.1 skipped.1 brackets ends]
      exact skipFrom_entries spaced.2 keys.2 skipped.2 brackets rest

end entries

/-! ### Values -/

/-- A value is taken whole, however deep it is and whatever its strings hold. -/
theorem IsValue.isSkipped {s : Text} (value : IsValue s) : IsSkipped s := by
  -- The induction is on the value; what is said of its parts holds inside any brackets, so also
  -- inside the one that the value itself opens.
  induction value with
  | null =>
      intro brackets rest _
      exact skipFrom_word brackets (List.cons_ne_nil 'u' ['l', 'l']) rest
  | boolean b =>
      intro brackets rest _
      cases b with
      | true =>
          exact skipFrom_word brackets (List.cons_ne_nil 'r' ['u', 'e']) rest
      | false =>
          exact skipFrom_word brackets (List.cons_ne_nil 'a' ['l', 's', 'e']) rest
  | number number => exact fun brackets _ ends => skipFrom_number brackets number ends
  | string string => exact fun brackets rest _ => skipFrom_string brackets string rest
  | array array values skipped =>
      exact array.isSkipped (fun item member => (values item member).startsValue) skipped
  | object object keys _ skipped => exact object.isSkipped keys skipped

/-- Passing over a value leaves what stands behind it, with blanks in front of it or without. -/
theorem IsValue.skipValue {gap s rest : Text} (value : IsValue s) (blank : IsGap gap)
    (ends : EndsNumber rest) : skipValue (gap ++ (s ++ rest)) = .ok rest := by
  rw [Json.skipValue, skipFrom_gap rfl _ blank]
  exact value.isSkipped [] rest ends

end NodeGauge.Json
