/-
Module: NodeGauge.Number.Shortest
Purpose: The shortest decimal that reads back as a given binary floating-point number, and its
  text.
Main exports: Decimal, Binary, Binary.ofFloat, Binary.shortest, FloatStyle, FloatStyle.write
-/
import NodeGauge.Number.Numeral

namespace NodeGauge

/-- A decimal `digits · 10 ^ scale`. -/
structure Decimal where
  digits : Nat
  scale : Int
deriving Repr, DecidableEq

/-- A positive binary number `significand · 2 ^ scale`, and whether the next smaller number of its
format lies at half the usual distance. -/
structure Binary where
  significand : Nat
  scale : Int
  closeBelow : Bool
deriving Repr, DecidableEq

namespace Binary

/-- The number of values that the stored bits of a significand take. -/
def significandBound : Nat := 0x10000000000000

/-- The bits of a floating-point number but for its sign. -/
def signBound : Nat := 0x8000000000000000

/-- The size of a finite floating-point number: its 52 stored bits below an implied one, unless the
exponent is the least. -/
def ofFloat (x : Float) : Binary :=
  let bits := x.toBits.toNat % signBound
  let stored := bits % significandBound
  let exponent := bits / significandBound
  if exponent = 0 then ⟨stored, -1074, false⟩
  else ⟨significandBound + stored, (exponent : Int) - 1075, stored == 0 && exponent != 1⟩

/-- A number in quarters of its last binary place, with the ends of the interval of the reals that
round to it.  Each is a numerator over one denominator. -/
structure Interval where
  low : Nat
  middle : Nat
  high : Nat
  denominator : Nat
  /-- Whether the ends round to the number too. -/
  closed : Bool

/-- The interval of the reals that round to a number.  Its ends belong to it if the significand is
even, since a tie goes to the even neighbour. -/
def interval (b : Binary) : Interval :=
  let up := Nat.pow 2 (b.scale - 2).toNat
  { low := (4 * b.significand - if b.closeBelow then 1 else 2) * up
    middle := 4 * b.significand * up
    high := (4 * b.significand + 2) * up
    denominator := Nat.pow 2 (2 - b.scale).toNat
    closed := b.significand % 2 == 0 }

/-- Whether the decimal `digits · 10 ^ scale` rounds to the number of an interval. -/
def Interval.holds (i : Interval) (d : Decimal) : Bool :=
  let point := d.digits * Nat.pow 10 d.scale.toNat * i.denominator
  let unit := Nat.pow 10 (-d.scale).toNat
  if i.closed then i.low * unit ≤ point && point ≤ i.high * unit
  else i.low * unit < point && point < i.high * unit

/-- The neighbour of a number on the grid of the multiples of `10 ^ scale` that rounds to the
number.  Of two such neighbours the nearer one counts, of two equally near ones the even one. -/
def Interval.onGrid? (i : Interval) (scale : Int) : Option Decimal :=
  let top := i.middle * Nat.pow 10 (-scale).toNat
  let bottom := i.denominator * Nat.pow 10 scale.toNat
  let below : Decimal := ⟨top / bottom, scale⟩
  let above : Decimal := ⟨top / bottom + 1, scale⟩
  let remainder := 2 * (top % bottom)
  match i.holds below, i.holds above with
  | true, true =>
      some (if remainder < bottom || (remainder == bottom && below.digits % 2 == 0) then below
        else above)
  | true, false => some below
  | false, true => some above
  | false, false => none

/-- The power of ten at or below a positive number, from the greatest and the least of the
format. -/
def leadingScale (i : Interval) : Int :=
  let scales := (List.range 640).map fun n : Nat => (310 : Int) - n
  (scales.find? fun s =>
    i.denominator * Nat.pow 10 s.toNat ≤ i.middle * Nat.pow 10 (-s).toNat).getD 0

/-- The decimal with the fewest digits that reads back as a positive number.  Seventeen digits
always do. -/
def shortest (b : Binary) : Decimal :=
  let i := b.interval
  let first := leadingScale i
  let grids := (List.range 18).map fun n : Nat => first - n
  (grids.findSome? i.onGrid?).getD ⟨0, 0⟩

end Binary

/-- How a floating-point number is written: the leading exponents that have positional notation,
and the mark of an exponent. -/
structure FloatStyle where
  leastPositional : Int
  greatestPositional : Int
  exponentMark : Char

namespace FloatStyle

/-- Digits with a point behind the first few, and at least one digit on each side of it. -/
def positional (digits : Text) (exponent : Int) : Text :=
  if exponent < 0 then
    "0.".toList ++ List.replicate (-exponent - 1).toNat '0' ++ digits
  else
    let whole := exponent.toNat + 1
    let padded := digits ++ List.replicate (whole - digits.length) '0'
    let fraction := padded.drop whole
    padded.take whole ++ '.' :: if fraction.isEmpty then ['0'] else fraction

/-- One digit before the point, and the exponent with its sign. -/
def scientific (style : FloatStyle) (digits : Text) (exponent : Int) : Text :=
  let fraction := digits.drop 1
  digits.take 1 ++ (if fraction.isEmpty then [] else '.' :: fraction) ++
    style.exponentMark :: (if exponent < 0 then '-' else '+') :: Numeral.ofNat exponent.natAbs

/-- The text of a finite number.  Zero is written with its sign. -/
def write (style : FloatStyle) (x : Float) : Text :=
  let sign : Text := if x.toBits.toNat < Binary.signBound then [] else ['-']
  let b := Binary.ofFloat x
  if b.significand = 0 then sign ++ "0.0".toList
  else
    let d := b.shortest
    let written := Numeral.ofNat d.digits
    let exponent := d.scale + (written.length - 1 : Nat)
    let digits := (written.reverse.dropWhile (· == '0')).reverse
    sign ++
      if style.leastPositional ≤ exponent && exponent ≤ style.greatestPositional then
        positional digits exponent
      else style.scientific digits exponent

end FloatStyle

end NodeGauge
