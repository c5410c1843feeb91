/-
Module: NodeGauge.Json.Skip
Purpose: A machine that passes over one JSON value of any depth, character by character.  The open
  brackets are on a stack, so no depth is too great for it.
Main exports: Json.isBlank, Json.Bracket, Json.Expecting, Json.Expecting.step, Json.skipFrom,
  Json.skipValue
-/
import NodeGauge.Json.Quote

namespace NodeGauge.Json

/-- The characters that may stand between the tokens of a text. -/
def isBlank (c : Char) : Bool := c == ' ' || c == '\n' || c == '\t' || c == '\r'

/-- An open bracket. -/
inductive Bracket where
  | array
  | object
deriving Repr, DecidableEq

/-- What the machine expects next. -/
inductive Expecting where
  /-- A value. -/
  | value
  /-- The first value of an array, or its end. -/
  | firstItem
  /-- The first key of an object, or its end. -/
  | firstKey
  /-- A key. -/
  | key
  /-- The colon behind a key. -/
  | colon
  /-- More of the innermost bracket, or its end. -/
  | more
  /-- More of a string, which is a key or a value. -/
  | text (isKey : Bool)
  /-- The letter of an escape. -/
  | escape (isKey : Bool)
  /-- So many hexadecimal digits of an escape. -/
  | unit (isKey : Bool) (digits : Nat)
  /-- The letters of a word. -/
  | word (letters : Text)
  /-- The first digit of a number. -/
  | firstDigit
  /-- What may follow a leading zero. -/
  | afterZero
  /-- More digits before the point. -/
  | wholeDigits
  /-- The first digit behind the point. -/
  | firstFraction
  /-- More digits behind the point. -/
  | fractionDigits
  /-- The sign or the first digit of an exponent. -/
  | exponentSign
  /-- The first digit of an exponent. -/
  | firstExponent
  /-- More digits of an exponent. -/
  | exponentDigits
deriving Repr, DecidableEq

/-- What a character does to the machine. -/
inductive Move where
  /-- The character is taken. -/
  | go (next : Expecting) (brackets : List Bracket)
  /-- The character is taken and ends the value. -/
  | done
  /-- The value has ended before the character. -/
  | ended
  /-- The character cannot stand here. -/
  | refused
deriving Repr, DecidableEq

namespace Expecting

/-- A value inside these brackets ends with the character that is taken. -/
def close : List Bracket → Move
  | [] => .done
  | brackets => .go .more brackets

/-- The move on the first character of a value. -/
def start (brackets : List Bracket) (c : Char) : Move :=
  match c with
  | '"' => .go (.text false) brackets
  | '[' => .go .firstItem (.array :: brackets)
  | '\x7b' => .go .firstKey (.object :: brackets)
  | 'n' => .go (.word ['u', 'l', 'l']) brackets
  | 't' => .go (.word ['r', 'u', 'e']) brackets
  | 'f' => .go (.word ['a', 'l', 's', 'e']) brackets
  | '-' => .go .firstDigit brackets
  | '0' => .go .afterZero brackets
  | c => if Numeral.isDigit c then .go .wholeDigits brackets else .refused

/-- The move on a character behind a value inside the innermost of some brackets. -/
def follow (brackets : List Bracket) (c : Char) : Move :=
  match brackets, c with
  | .array :: _, ',' => .go .value brackets
  | .object :: _, ',' => .go .key brackets
  | .array :: outer, ']' => close outer
  | .object :: outer, '\x7d' => close outer
  | _, c => if isBlank c then .go .more brackets else .refused

/-- The move on a character that does not belong to the number before it. -/
def leave (brackets : List Bracket) (c : Char) : Move :=
  if brackets.isEmpty then .ended else follow brackets c

/-- The move on a character behind the digits of a number. -/
def exponentOrLeave (brackets : List Bracket) (c : Char) : Move :=
  if c = 'e' || c = 'E' then .go .exponentSign brackets else leave brackets c

/-- The move on a character. -/
def step (expecting : Expecting) (brackets : List Bracket) (c : Char) : Move :=
  match expecting with
  | value => if isBlank c then .go .value brackets else start brackets c
  | firstItem =>
      if isBlank c then .go .firstItem brackets
      else if c = ']' then close brackets.tail else start brackets c
  | firstKey =>
      if isBlank c then .go .firstKey brackets
      else if c = '\x7d' then close brackets.tail
      else if c = '"' then .go (.text true) brackets else .refused
  | key =>
      if isBlank c then .go .key brackets
      else if c = '"' then .go (.text true) brackets else .refused
  | colon =>
      if isBlank c then .go .colon brackets
      else if c = ':' then .go .value brackets else .refused
  | more => follow brackets c
  | text isKey =>
      if c = '"' then (if isKey then .go .colon brackets else close brackets)
      else if c = '\\' then .go (.escape isKey) brackets
      else if c.toNat < 0x20 then .refused else .go (.text isKey) brackets
  | escape isKey =>
      if c = 'u' then .go (.unit isKey 4) brackets
      else if (shortEscape? c).isSome then .go (.text isKey) brackets else .refused
  | unit isKey digits =>
      if (Numeral.hexValue? c).isNone then .refused
      else if digits ≤ 1 then .go (.text isKey) brackets
      else .go (.unit isKey (digits - 1)) brackets
  | word letters =>
      match letters with
      | [] => .refused
      | [last] => if c = last then close brackets else .refused
      | letter :: letters => if c = letter then .go (.word letters) brackets else .refused
  | firstDigit =>
      if c = '0' then .go .afterZero brackets
      else if Numeral.isDigit c then .go .wholeDigits brackets else .refused
  | afterZero =>
      if c = '.' then .go .firstFraction brackets
      else if Numeral.isDigit c then .refused else exponentOrLeave brackets c
  | wholeDigits =>
      if c = '.' then .go .firstFraction brackets
      else if Numeral.isDigit c then .go .wholeDigits brackets
      else exponentOrLeave brackets c
  | firstFraction => if Numeral.isDigit c then .go .fractionDigits brackets else .refused
  | fractionDigits =>
      if Numeral.isDigit c then .go .fractionDigits brackets else exponentOrLeave brackets c
  | exponentSign =>
      if c = '+' || c = '-' then .go .firstExponent brackets
      else if Numeral.isDigit c then .go .exponentDigits brackets else .refused
  | firstExponent => if Numeral.isDigit c then .go .exponentDigits brackets else .refused
  | exponentDigits =>
      if Numeral.isDigit c then .go .exponentDigits brackets else leave brackets c

/-- Whether a text that ends here ends behind a number. -/
def endsNumber : Expecting → Bool
  | afterZero | wholeDigits | fractionDigits | exponentDigits => true
  | _ => false

/-- The fault of a text that ends here.  A number that is cut short is malformed; everything else
is truncated. -/
def endFault : Expecting → Fault
  | firstDigit | firstFraction | exponentSign | firstExponent => .malformed
  | _ => .truncated

/-- The fault of a text whose next character cannot stand here. -/
def refusal (expecting : Expecting) (rest : Text) : Fault :=
  match expecting with
  | unit _ digits => unitFault digits rest
  | _ => .malformed

end Expecting

/-- Pass over the rest of a value inside some brackets, and give the text behind it. -/
def skipFrom (expecting : Expecting) (brackets : List Bracket) : Text → Except Fault Text
  | [] =>
      if expecting.endsNumber && brackets.isEmpty then .ok [] else .error expecting.endFault
  | c :: rest =>
      match expecting.step brackets c with
      | .go next brackets => skipFrom next brackets rest
      | .done => .ok rest
      | .ended => .ok (c :: rest)
      | .refused => .error (expecting.refusal (c :: rest))

/-- Pass over one value. -/
def skipValue (s : Text) : Except Fault Text := skipFrom .value [] s

/-- Passing over a value gives nothing back. -/
theorem length_of_skipFrom {expecting : Expecting} {brackets : List Bracket} {s rest : Text}
    (h : skipFrom expecting brackets s = .ok rest) : rest.length ≤ s.length := by
  induction s generalizing expecting brackets with
  | nil =>
      unfold skipFrom at h
      split at h
      · cases h; simp
      · cases h
  | cons c s ih =>
      unfold skipFrom at h
      split at h
      · exact Nat.le_succ_of_le (ih h)
      · cases h; simp
      · cases h; simp
      · cases h

end NodeGauge.Json
