/-
Module: NodeGauge.Log.Event
Purpose: What the program reports of its work, one event for each fact.
Main exports: Log.Level, Log.Value, Log.Event, Log.Event.line
-/
import NodeGauge.Number.Numeral
import NodeGauge.Text.Quoted

namespace NodeGauge.Log

/-- How much an event matters, from the most on. -/
inductive Level where
  | error
  | warn
  | info
  | debug
  | trace
deriving Repr, DecidableEq

namespace Level

/-- The place of a level, counted from the most important one. -/
def rank : Level → Nat
  | error => 1
  | warn => 2
  | info => 3
  | debug => 4
  | trace => 5

/-- The word for a level. -/
def word : Level → Text
  | error => "ERROR".toList
  | warn => "WARN".toList
  | info => "INFO".toList
  | debug => "DEBUG".toList
  | trace => "TRACE".toList

end Level

/-- The value of a field. -/
inductive Value where
  /-- A text that is shown as it is. -/
  | plain (s : Text)
  /-- A text that is shown in quotes. -/
  | quoted (s : Text)
  /-- A number. -/
  | number (n : Nat)
  /-- A truth value. -/
  | flag (b : Bool)
deriving Repr, DecidableEq

/-- The text of a value. -/
def Value.show : Value → Text
  | plain s => s
  | quoted s => s.quoted
  | number n => Numeral.ofNat n
  | flag true => "true".toList
  | flag false => "false".toList

/-- An event: where in the program it comes from, what happened, and to what. -/
structure Event where
  level : Level
  target : Text
  message : Text
  fields : List (Text × Value)
deriving Repr, DecidableEq

/-- The line of an event in the log, without the time. -/
def Event.line (e : Event) : Text :=
  e.level.word ++ ' ' :: e.target ++ ": ".toList ++ e.message ++
    e.fields.flatMap fun (key, value) => ' ' :: key ++ '=' :: value.show

end NodeGauge.Log
