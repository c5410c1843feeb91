/-
Module: NodeGauge.Json.Quote
Purpose: JSON strings, written and read.
Main exports: Json.quote, Json.readEscape, Json.readString
-/
import NodeGauge.Json.Fault
import NodeGauge.Text.Utf8

namespace NodeGauge.Json

open Numeral (hexValue?)

/-- A digit of a hexadecimal numeral below sixteen, in lower case. -/
def hexDigit (n : Nat) : Char := Nat.digitChar n

/-- A character between the quotes of a JSON string.  The quote, the escape mark and the controls
of the ASCII block are escaped, and nothing else is. -/
def escaped : Char → Text
  | '"' => ['\\', '"']
  | '\\' => ['\\', '\\']
  | '\x08' => ['\\', 'b']
  | '\t' => ['\\', 't']
  | '\n' => ['\\', 'n']
  | '\x0c' => ['\\', 'f']
  | '\r' => ['\\', 'r']
  | c =>
      if c.toNat < 0x20 then
        ['\\', 'u', '0', '0', hexDigit (c.toNat / 16), hexDigit (c.toNat % 16)]
      else [c]

/-- The JSON string of a text. -/
def quote (s : Text) : Text := '"' :: s.flatMap escaped ++ ['"']

/-- The value of four hexadecimal digits. -/
def unitValue? (a b c d : Char) : Option Nat := do
  let high := 16 * (← hexValue? a) + (← hexValue? b)
  let low := 16 * (← hexValue? c) + (← hexValue? d)
  return 256 * high + low

/-- Why four hexadecimal digits cannot be read.  They are looked for in the next four octets, so a
text that holds fewer is truncated whatever they are. -/
def unitFault (wanted : Nat) (s : Text) : Fault :=
  if (Text.utf8 (s.take wanted)).length < wanted then .truncated else .malformed

/-- Read the four hexadecimal digits of an escape. -/
def readUnit : Text → Except Fault (Nat × Text)
  | a :: b :: c :: d :: rest =>
      match unitValue? a b c d with
      | some unit => .ok (unit, rest)
      | none => .error .malformed
  | short => .error (unitFault 4 short)

/-- Read what must follow the first half of a surrogate pair: an escape of the second half. -/
def readLowSurrogate (high : Nat) : Text → Except Fault (Char × Text)
  | [] => .error .truncated
  | '\\' :: [] => .error .truncated
  | '\\' :: 'u' :: rest =>
      match readUnit rest with
      | .error fault => .error fault
      | .ok (low, rest) =>
          if 0xdc00 ≤ low && low ≤ 0xdfff then
            .ok (Char.ofNat (0x10000 + (high - 0xd800) * 0x400 + (low - 0xdc00)), rest)
          else .error .malformed
  | _ => .error .malformed

/-- The character of an escape that is one letter long. -/
def shortEscape? : Char → Option Char
  | '"' => some '"'
  | '\\' => some '\\'
  | '/' => some '/'
  | 'b' => some '\x08'
  | 'f' => some '\x0c'
  | 'n' => some '\n'
  | 'r' => some '\r'
  | 't' => some '\t'
  | _ => none

/-- Read an escape behind its mark.  The two halves of a surrogate pair stand for one character and
neither may stand alone. -/
def readEscape : Text → Except Fault (Char × Text)
  | [] => .error .truncated
  | 'u' :: rest =>
      match readUnit rest with
      | .error fault => .error fault
      | .ok (unit, rest) =>
          if 0xd800 ≤ unit && unit ≤ 0xdbff then readLowSurrogate unit rest
          else if 0xdc00 ≤ unit && unit ≤ 0xdfff then .error .malformed
          else .ok (Char.ofNat unit, rest)
  | letter :: rest =>
      match shortEscape? letter with
      | some c => .ok (c, rest)
      | none => .error .malformed

/-- Reading four digits takes them away. -/
theorem length_of_readUnit {s rest : Text} {unit : Nat} (h : readUnit s = .ok (unit, rest)) :
    rest.length < s.length := by
  unfold readUnit at h
  split at h
  · split at h
    · simp only [Except.ok.injEq, Prod.mk.injEq] at h
      simp [← h.2]; omega
    · cases h
  · cases h

/-- Reading the second half of a surrogate pair takes it away. -/
theorem length_of_readLowSurrogate {high : Nat} {s rest : Text} {c : Char}
    (h : readLowSurrogate high s = .ok (c, rest)) : rest.length < s.length := by
  unfold readLowSurrogate at h
  split at h
  · cases h
  · cases h
  · split at h
    · cases h
    · next hu =>
        have := length_of_readUnit hu
        split at h
        · simp only [Except.ok.injEq, Prod.mk.injEq] at h
          simp [← h.2]; omega
        · cases h
  · cases h

/-- Reading an escape takes it away. -/
theorem length_of_readEscape {s rest : Text} {c : Char} (h : readEscape s = .ok (c, rest)) :
    rest.length < s.length := by
  unfold readEscape at h
  split at h
  · cases h
  · split at h
    · cases h
    · next hu =>
        have := length_of_readUnit hu
        split at h
        · have := length_of_readLowSurrogate h
          simp; omega
        · split at h
          · cases h
          · simp only [Except.ok.injEq, Prod.mk.injEq] at h
            simp [← h.2]; omega
  · split at h
    · simp only [Except.ok.injEq, Prod.mk.injEq] at h
      simp [h.2]
    · cases h

/-- Read a string behind its opening quote; `done` holds what has been read, last first. -/
def readStringFrom (done : Text) : Text → Except Fault (Text × Text)
  | [] => .error .truncated
  | '"' :: rest => .ok (done.reverse, rest)
  | '\\' :: rest =>
      match h : readEscape rest with
      | .error fault => .error fault
      | .ok (c, after) =>
          have : after.length < rest.length := length_of_readEscape h
          readStringFrom (c :: done) after
  | c :: rest => if c.toNat < 0x20 then .error .malformed else readStringFrom (c :: done) rest
termination_by s => s.length
decreasing_by
  · simp; omega
  · simp

/-- Read a string behind its opening quote. -/
def readString (s : Text) : Except Fault (Text × Text) := readStringFrom [] s

end NodeGauge.Json
