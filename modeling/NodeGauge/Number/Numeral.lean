/-
Module: NodeGauge.Number.Numeral
Purpose: Decimal numerals of 64-bit numbers, read and written, and the digits of other bases.
Main exports: Numeral.value, Numeral.read?, Numeral.write, Numeral.hexValue?, Numeral.valueIn?,
  Numeral.isFloat
-/
import NodeGauge.Text.Basic

namespace NodeGauge.Numeral

/-- A decimal digit of the ASCII block. -/
def isDigit (c : Char) : Bool := '0' ≤ c && c ≤ '9'

/-- The value of one digit. -/
def digitValue (c : Char) : Nat := c.toNat - '0'.toNat

/-- The value of a string of digits, the most significant first. -/
def value (digits : Text) : Nat := digits.foldl (fun n c => 10 * n + digitValue c) 0

/-- Read a numeral: one or more digits, leading zeros allowed, after at most one plus sign, with a
value that fits in 64 bits. -/
def read? (s : Text) : Option UInt64 :=
  let digits := match s with
    | '+' :: rest => rest
    | _ => s
  if !digits.isEmpty && digits.all isDigit then
    let n := value digits
    if n < UInt64.size then some (UInt64.ofNat n) else none
  else none

/-- The decimal digits of a natural number, without leading zeros. -/
def ofNat (n : Nat) : Text := Nat.toDigits 10 n

/-- The numeral of a 64-bit number: its digits and no sign. -/
def write (n : UInt64) : Text := ofNat n.toNat

/-- The value of a hexadecimal digit of either case. -/
def hexValue? (c : Char) : Option Nat :=
  if '0' ≤ c && c ≤ '9' then some (c.toNat - '0'.toNat)
  else if 'a' ≤ c && c ≤ 'f' then some (c.toNat - 'a'.toNat + 10)
  else if 'A' ≤ c && c ≤ 'F' then some (c.toNat - 'A'.toNat + 10)
  else none

/-- The value of digits to a base of at most sixteen, of which there must be one. -/
def valueIn? (base : Nat) (digits : Text) : Option Nat :=
  if digits.isEmpty then none
  else digits.foldlM (fun n c => do
    let d ← hexValue? c
    if d < base then some (base * n + d) else none) 0

/-- A text without the sign at its front, if there is one. -/
def unsigned : Text → Text
  | '+' :: rest => rest
  | '-' :: rest => rest
  | s => s

/-- Whether a text is an exponent, or nothing. -/
def isExponent : Text → Bool
  | [] => true
  | mark :: rest =>
      let digits := unsigned rest
      (mark == 'e' || mark == 'E') && !digits.isEmpty && digits.all isDigit

/-- Whether a text stands for a floating-point number: digits with a point among them or not, an
exponent or none, or the word for an infinity or for no number. -/
def isFloat (s : Text) : Bool :=
  let s := unsigned s
  let whole := s.takeWhile isDigit
  let (fraction, rest) := match s.dropWhile isDigit with
    | '.' :: rest => (rest.takeWhile isDigit, rest.dropWhile isDigit)
    | rest => ([], rest)
  ["inf", "infinity", "nan"].contains (String.ofList (s.map Char.toLower)) ||
    ((!whole.isEmpty || !fraction.isEmpty) && isExponent rest)

end NodeGauge.Numeral
