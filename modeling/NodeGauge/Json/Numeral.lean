/-
Module: NodeGauge.Json.Numeral
Purpose: JSON numbers, read with the value that 64-bit arithmetic gives them.
Main exports: Json.Scanned, Json.scanNumber, Json.readNumber, Json.length_of_readNumber
-/
import NodeGauge.Json.Fault

namespace NodeGauge.Json

open Numeral (isDigit digitValue)

/-- Append digits to a number as long as it fits in 64 bits.  The result is the number and how many
digits were appended. -/
def absorb (n : Nat) : Text → Nat × Nat
  | [] => (n, 0)
  | c :: rest =>
      let next := 10 * n + digitValue c
      if next < UInt64.size then
        let (final, count) := absorb next rest
        (final, count + 1)
      else (n, 0)

/-- Divide a number by a power of ten, in steps that the format can hold. -/
def divideByPower (x : Float) (power : Nat) : Float :=
  if power ≤ 308 then x / Float.ofScientific 1 false power
  else if x == 0 then x
  else divideByPower (x / 1e308) (power - 308)
termination_by power
decreasing_by omega

/-- The floating-point number `significand · 10 ^ exponent`, or nothing if it is beyond the format.
One rounding is for the significand and one for each step of scaling. -/
def scaled? (significand : Nat) (exponent : Int) : Option Float :=
  let x := (UInt64.ofNat significand).toFloat
  if exponent < 0 then some (divideByPower x exponent.natAbs)
  else if exponent ≤ 308 then
    let y := x * Float.ofScientific 1 false exponent.toNat
    if y.isInf then none else some y
  else if x == 0 then some x
  else none

/-- The parts of a number: the digits before the point, those behind it if there is a point, and
the exponent if there is one. -/
structure Scanned where
  whole : Text
  fraction : Option Text
  exponent : Option Int
  rest : Text

/-- What is missing where a digit must stand. -/
def digitFault : Text → Fault
  | [] => .truncated
  | _ => .malformed

/-- Scan one digit or more. -/
def scanDigits (s : Text) : Except Fault (Text × Text) :=
  match s.takeWhile isDigit with
  | [] => .error (digitFault s)
  | digits => .ok (digits, s.dropWhile isDigit)

/-- Scan the digits before the point.  A leading zero stands alone. -/
def scanWhole (s : Text) : Except Fault (Text × Text) :=
  match scanDigits s with
  | .ok ('0' :: _ :: _, _) => .error .malformed
  | scanned => scanned

/-- Scan a point and the digits behind it, if a point comes next. -/
def scanFraction : Text → Except Fault (Option Text × Text)
  | '.' :: s =>
      match scanDigits s with
      | .error fault => .error fault
      | .ok (digits, rest) => .ok (some digits, rest)
  | s => .ok (none, s)

/-- Scan the sign and the digits of an exponent. -/
def scanSigned (s : Text) : Except Fault (Int × Text) :=
  match s with
  | '-' :: s => (scanDigits s).map fun (digits, rest) => (-(Numeral.value digits : Int), rest)
  | '+' :: s => (scanDigits s).map fun (digits, rest) => (Numeral.value digits, rest)
  | s => (scanDigits s).map fun (digits, rest) => (Numeral.value digits, rest)

/-- Scan an exponent, if its mark comes next. -/
def scanExponent : Text → Except Fault (Option Int × Text)
  | c :: s =>
      if c = 'e' || c = 'E' then
        match scanSigned s with
        | .error fault => .error fault
        | .ok (n, rest) => .ok (some n, rest)
      else .ok (none, c :: s)
  | [] => .ok (none, [])

/-- Scan a number behind its sign. -/
def scanNumber (s : Text) : Except Fault Scanned :=
  match scanWhole s with
  | .error fault => .error fault
  | .ok (whole, s) =>
      match scanFraction s with
      | .error fault => .error fault
      | .ok (fraction, s) =>
          match scanExponent s with
          | .error fault => .error fault
          | .ok (exponent, rest) => .ok ⟨whole, fraction, exponent, rest⟩

/-- The greatest size of a negative integer of 64 bits. -/
def greatestMagnitude : Nat := 0x8000000000000000

/-- The value of a scanned number.  Digits are taken while the significand fits in 64 bits: those
before the point that do not fit raise the exponent, those behind it are dropped. -/
def Scanned.value? (n : Scanned) (negative : Bool) : Option Number :=
  let (whole, taken) := absorb 0 n.whole
  let dropped := n.whole.length - taken
  match n.fraction, n.exponent, dropped with
  | none, none, 0 =>
      if !negative then some (.natural (.ofNat whole))
      else if 0 < whole && whole ≤ greatestMagnitude then some (.negative whole)
      else some (.float (-(UInt64.ofNat whole).toFloat))
  | fraction, exponent, dropped =>
      let (significand, behind) := absorb whole (fraction.getD [])
      (scaled? significand (dropped - behind + exponent.getD 0)).map fun x =>
        .float (if negative then -x else x)

/-- Read a number behind its sign.  One that is beyond every format is malformed. -/
def readNumber (negative : Bool) (s : Text) : Except Fault (Number × Text) :=
  match scanNumber s with
  | .error fault => .error fault
  | .ok n =>
      match n.value? negative with
      | some value => .ok (value, n.rest)
      | none => .error .malformed

/-- Scanning digits takes at least one away. -/
theorem length_of_scanDigits {s digits rest : Text} (h : scanDigits s = .ok (digits, rest)) :
    rest.length < s.length := by
  have parts : (s.takeWhile isDigit).length + (s.dropWhile isDigit).length = s.length := by
    rw [← List.length_append, List.takeWhile_append_dropWhile]
  unfold scanDigits at h
  split at h
  · cases h
  · next nonempty =>
      simp only [Except.ok.injEq, Prod.mk.injEq] at h
      have := List.length_pos_iff.2 nonempty
      rw [← h.2]; omega

/-- Scanning the digits before the point takes at least one away. -/
theorem length_of_scanWhole {s digits rest : Text} (h : scanWhole s = .ok (digits, rest)) :
    rest.length < s.length := by
  unfold scanWhole at h
  split at h
  · cases h
  · exact length_of_scanDigits h

/-- Scanning a fraction gives nothing back. -/
theorem length_of_scanFraction {s rest : Text} {fraction : Option Text}
    (h : scanFraction s = .ok (fraction, rest)) : rest.length ≤ s.length := by
  unfold scanFraction at h
  split at h
  · split at h
    · cases h
    · next scanned =>
        simp only [Except.ok.injEq, Prod.mk.injEq] at h
        have := length_of_scanDigits scanned
        rw [← h.2, List.length_cons]; omega
  · simp only [Except.ok.injEq, Prod.mk.injEq] at h
    exact Nat.le_of_eq (congrArg List.length h.2.symm)

/-- Scanning a signed number takes at least one digit away. -/
theorem length_of_scanSigned {s rest : Text} {n : Int} (h : scanSigned s = .ok (n, rest)) :
    rest.length < s.length := by
  have mapped {f : Text × Text → Int} {s : Text}
      (h : (scanDigits s).map (fun p => (f p, p.2)) = .ok (n, rest)) :
      rest.length < s.length := by
    cases scanned : scanDigits s with
    | error fault => simp [scanned, Except.map] at h
    | ok p =>
        simp only [scanned, Except.map, Except.ok.injEq, Prod.mk.injEq] at h
        rw [← h.2]; exact length_of_scanDigits scanned
  unfold scanSigned at h
  split at h
  · exact Nat.lt_succ_of_lt (mapped (f := fun p => -(Numeral.value p.1 : Int)) h)
  · exact Nat.lt_succ_of_lt (mapped (f := fun p => Numeral.value p.1) h)
  · exact mapped (f := fun p => Numeral.value p.1) h

/-- Scanning an exponent gives nothing back. -/
theorem length_of_scanExponent {s rest : Text} {exponent : Option Int}
    (h : scanExponent s = .ok (exponent, rest)) : rest.length ≤ s.length := by
  unfold scanExponent at h
  split at h
  · split at h
    · split at h
      · cases h
      · next scanned =>
          simp only [Except.ok.injEq, Prod.mk.injEq] at h
          have := length_of_scanSigned scanned
          rw [← h.2, List.length_cons]; omega
    · simp only [Except.ok.injEq, Prod.mk.injEq] at h
      exact Nat.le_of_eq (congrArg List.length h.2.symm)
  · simp only [Except.ok.injEq, Prod.mk.injEq] at h
    exact Nat.le_of_eq (congrArg List.length h.2.symm)

/-- Reading a number takes at least one digit away. -/
theorem length_of_readNumber {negative : Bool} {s rest : Text} {n : Number}
    (h : readNumber negative s = .ok (n, rest)) : rest.length < s.length := by
  simp only [readNumber, scanNumber] at h
  split at h
  · cases h
  · next scanned =>
      split at scanned
      · cases scanned
      · next whole =>
          split at scanned
          · cases scanned
          · next fraction =>
              split at scanned
              · cases scanned
              · next exponent =>
                  have := length_of_scanWhole whole
                  have := length_of_scanFraction fraction
                  have := length_of_scanExponent exponent
                  cases scanned
                  split at h
                  · simp only [Except.ok.injEq, Prod.mk.injEq] at h
                    rw [← h.2]; omega
                  · cases h

end NodeGauge.Json
