/-
Module: NodeGauge.Text.Quoted
Purpose: The quoted form in which messages show a text: on one line, between double quotes, with
  every character that a reader could not tell apart written as an escape.
Main exports: Text.hexadecimal, Text.escaped, Text.quoted
-/
import NodeGauge.Text.Combining
import NodeGauge.Text.Hidden

namespace NodeGauge.Text

/-- A number in lower-case hexadecimal digits, without leading zeros. -/
def hexadecimal (n : Nat) : Text := Nat.toDigits 16 n

/-- A character as it stands between the quotes: the quote, the escape mark and four controls have
a short escape, combining and hidden characters are written by their code point, and every other
character stands for itself. -/
def escaped (c : Char) : Text :=
  match c with
  | '"' => ['\\', '"']
  | '\\' => ['\\', '\\']
  | '\x00' => ['\\', '0']
  | '\t' => ['\\', 't']
  | '\n' => ['\\', 'n']
  | '\r' => ['\\', 'r']
  | c =>
      if isCombining c || isHidden c then ['\\', 'u', '\x7b'] ++ hexadecimal c.toNat ++ ['\x7d']
      else [c]

/-- The quoted form of a text. -/
def quoted (s : Text) : Text := '"' :: s.flatMap escaped ++ ['"']

end NodeGauge.Text
