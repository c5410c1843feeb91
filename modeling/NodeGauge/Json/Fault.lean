/-
Module: NodeGauge.Json.Fault
Purpose: Why a JSON text does not give the value that was asked for.
Main exports: Json.Number, Json.Found, Json.Wanted, Json.Misfit, Json.Fault
-/
import NodeGauge.Number.Shortest
import NodeGauge.Text.Quoted

namespace NodeGauge.Json

/-- A number as it is written: a natural number or a negative integer of 64 bits, and otherwise a
floating-point number. -/
inductive Number where
  | natural (n : UInt64)
  | negative (magnitude : Nat)
  | float (x : Float)
deriving Repr

/-- What stands in the text where something else was wanted. -/
inductive Found where
  | null
  | boolean (b : Bool)
  | number (n : Number)
  | string (s : Text)
  | sequence
  | map
deriving Repr

/-- Floating-point numbers in messages: positional from five places behind the point to sixteen
before it. -/
def floatStyle : FloatStyle := ⟨-5, 15, 'e'⟩

/-- The description of what stands in the text. -/
def Found.describe : Found → Text
  | null => "null".toList
  | boolean true => "boolean `true`".toList
  | boolean false => "boolean `false`".toList
  | number (.natural n) => "integer `".toList ++ Numeral.write n ++ ['\x60']
  | number (.negative m) => "integer `-".toList ++ Numeral.ofNat m ++ ['\x60']
  | number (.float x) => "floating point `".toList ++ floatStyle.write x ++ ['\x60']
  | string s => "string ".toList ++ s.quoted
  | sequence => "sequence".toList
  | map => "map".toList

/-- What a reader asks for. -/
inductive Wanted where
  | string
  | natural
  | boolean
  | sequence
  /-- A structure, by its title. -/
  | object (title : Text)
  /-- A structure that is written as an array of so many values. -/
  | elements (title : Text) (count : Nat)
deriving Repr, DecidableEq

/-- The description of what a reader asks for. -/
def Wanted.describe : Wanted → Text
  | string => "a string".toList
  | natural => "u64".toList
  | boolean => "a boolean".toList
  | sequence => "a sequence".toList
  | object title => "struct ".toList ++ title
  | elements title count =>
      "struct ".toList ++ title ++ " with ".toList ++ Numeral.ofNat count ++ " elements".toList

/-- The ways in which a well-formed text fails to give the value that was asked for. -/
inductive Misfit where
  | wrongType (found : Found) (wanted : Wanted)
  | wrongValue (found : Found) (wanted : Wanted)
  | wrongLength (found : Nat) (wanted : Wanted)
  | missingField (key : Text)
  | duplicateField (key : Text)
deriving Repr

/-- The message that reports a misfit. -/
def Misfit.message : Misfit → Text
  | wrongType found wanted =>
      "invalid type: ".toList ++ found.describe ++ ", expected ".toList ++ wanted.describe
  | wrongValue found wanted =>
      "invalid value: ".toList ++ found.describe ++ ", expected ".toList ++ wanted.describe
  | wrongLength found wanted =>
      "invalid length ".toList ++ Numeral.ofNat found ++ ", expected ".toList ++ wanted.describe
  | missingField key => "missing field `".toList ++ key ++ ['\x60']
  | duplicateField key => "duplicate field `".toList ++ key ++ ['\x60']

/-- The first thing that is wrong with a text, from its start. -/
inductive Fault where
  /-- The text is no JSON, whatever follows. -/
  | malformed
  /-- The text ends where more must follow. -/
  | truncated
  /-- The text is JSON so far, but not of what was asked for. -/
  | misfit (cause : Misfit)
deriving Repr

end NodeGauge.Json
