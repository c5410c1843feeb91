/-
Module: NodeGauge.Log.Filter
Purpose: Which events are written to the log, read from a list of directives.
Main exports: Log.Directive, Log.Directive.read?, Log.Filter, Log.Filter.ofText, Log.Filter.admits
-/
import NodeGauge.Log.Event
import NodeGauge.Log.Pattern
import NodeGauge.Text.Utf8

namespace NodeGauge.Log

/-- The least important level that is let through, as a rank; zero lets nothing through. -/
abbrev Threshold := Nat

/-- The threshold of a word: a level's name in letters of either case, the word for none, or a
rank. -/
def threshold? (word : Text) : Option Threshold :=
  match Numeral.read? word with
  | some n => if n ≤ 5 then some n.toNat else none
  | none =>
      let lower := String.ofList (word.map Char.toLower)
      [("off", 0), ("error", 1), ("warn", 2), ("info", 3), ("debug", 4), ("trace", 5)].lookup lower

/-- One directive: the events of a target let through to a threshold.  A directive about a span of
work holds for events inside it only, and one about a field for events that have it. -/
structure Directive where
  target : Option Text
  threshold : Threshold
  /-- Whether the directive speaks of a span, or of the value of a field. -/
  aboutSpan : Bool
  field : Option Text
deriving Repr, DecidableEq

namespace Directive

/-- Every level of every target. -/
def everything : Directive := ⟨none, Level.trace.rank, false, none⟩

/-- How many octets a text has. -/
def width (s : Text) : Nat := (Text.utf8 s).length

/-- The part of a text between two places, which are counted in octets. -/
def part (s : Text) (first last : Nat) : Text :=
  Octets.decode (((Text.utf8 s).take last).drop first)

/-- The threshold that is written behind a directive's target.  Nothing stands for the highest. -/
def thresholdBehind? (word : Text) : Option Threshold :=
  if word.isEmpty then some Level.trace.rank else threshold? word

/-- Read what stands at the end of a piece behind a span: nothing, or a threshold. -/
def readEnd? (d : Directive) (piece : Text) (place : Nat) : Text → Option Directive
  | [] => some d
  | '=' :: _ =>
      (thresholdBehind? (part piece (place + 1) (width piece))).map fun t =>
        { d with threshold := t }
  | _ => none

/-- Whether a text can be the value of a field: a number, which may have a plus sign, or a
pattern. -/
def isFieldValue (s : Text) : Bool := Numeral.isFloat s || isPattern s

/-- Add a field to a directive.  A field may be wanted with a value, which ends at the next equals
sign. -/
def addField? (d : Directive) (field : Text) : Option Directive :=
  if field.isEmpty then none
  else match field.cut '=' with
    | none => some { d with field := some field }
    | some (name, value) =>
        if isFieldValue (value.takeWhile (· != '=')) then
          some { d with field := some name, aboutSpan := true }
        else none

/-- Read a span behind its opening bracket: a name, a field between braces, and the closing
bracket. -/
def readSpan? (d : Directive) (piece : Text) (place : Nat) (s : Text) : Option Directive :=
  let isName (c : Char) : Bool := c != ']' && c != '\x7b'
  let nameEnd := place + width (s.takeWhile isName)
  match s.dropWhile isName with
  | ']' :: rest => readEnd? { d with aboutSpan := true } piece (nameEnd + 1) rest
  | '\x7b' :: rest =>
      let fieldEnd := nameEnd + 1 + width (rest.takeWhile (· != '\x7d'))
      match rest.dropWhile (· != '\x7d') with
      | '\x7d' :: ']' :: rest => do
          let named := { d with aboutSpan := !(part piece place nameEnd).isEmpty }
          let d ← named.addField? (part piece (nameEnd + 1) fieldEnd)
          d.readEnd? piece (fieldEnd + 2) rest
      | _ => none
  | _ => none

/-- A character that can start a target or a level. -/
def startsTarget (c : Char) : Bool :=
  Text.isAlphanumeric c || c == '-' || c == ':' || c == '_'

/-- Read a directive: a level, a target, or a target with a span, a level or both.  Its parts are
found as if no blanks stood around it, and are then taken from the piece as it is, so that blanks
shift what is read. -/
def read? (piece : Text) : Option Directive :=
  match piece.trim with
  | [] => none
  | '[' :: rest => everything.readSpan? piece 1 rest
  | c :: rest =>
      if !startsTarget c then none
      else
        let isTarget (c : Char) : Bool := c != '=' && c != '['
        let targetEnd := width ((c :: rest).takeWhile isTarget)
        let target := some (part piece 0 targetEnd)
        match (c :: rest).dropWhile isTarget with
        | '=' :: rest => { everything with target }.readEnd? piece targetEnd ('=' :: rest)
        | '[' :: rest => { everything with target }.readSpan? piece (targetEnd + 1) rest
        | _ =>
            match threshold? piece with
            | some t => some { everything with threshold := t }
            | none => some { everything with target := some piece }

/-- The field that holds the message of an event. -/
def messageField : Text := "message".toList

/-- Whether a directive speaks of an event: its target starts with the directive's, and it has the
field.  What is about a span speaks of no event outside it. -/
def concerns (d : Directive) (e : Event) : Bool :=
  !d.aboutSpan && (d.target.getD []).isPrefixOf e.target &&
    d.field.all fun name => name = messageField || e.fields.any fun (key, _) => key = name

/-- The order of directives by how specific they are: whether they name a target, how long that is,
and whether they name a field; then by what they name. -/
def compareBySpecificity (a b : Directive) : Ordering :=
  (compare (a.target.map width) (b.target.map width)).then <|
    (compare a.field.isSome b.field.isSome).then <|
      (compare a.target b.target).then (compare a.field b.field)

end Directive

/-- The directives in force. -/
structure Filter where
  directives : List Directive
deriving Repr, DecidableEq

namespace Filter

/-- The filter that is in force without directives. -/
def standard : Filter := ⟨[{ Directive.everything with threshold := Level.info.rank }]⟩

/-- The filter of a list of directives with commas between.  A list without any lets errors
through, and one with a directive that cannot be read is not taken at all. -/
def ofText (s : Text) : Filter :=
  match ((s.splitOn ',').filter fun piece => !piece.isEmpty).mapM Directive.read? with
  | none => standard
  | some [] => ⟨[{ Directive.everything with threshold := Level.error.rank }]⟩
  | some directives => ⟨directives⟩

/-- Whether one directive decides rather than another that comes before it: it is more specific, or
says the same of later. -/
def overrides (later earlier : Directive) : Bool :=
  later.compareBySpecificity earlier != .lt

/-- Whether an event is written to the log.  The most specific directive about it decides. -/
def admits (f : Filter) (e : Event) : Bool :=
  let deciding := (f.directives.filter (·.concerns e)).foldl
    (fun best d => match best with
      | none => some d
      | some current => if overrides d current then some d else best)
    (none : Option Directive)
  match deciding with
  | some d => e.level.rank ≤ d.threshold
  | none => false

end Filter

end NodeGauge.Log
