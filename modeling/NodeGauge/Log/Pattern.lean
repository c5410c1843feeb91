/-
Module: NodeGauge.Log.Pattern
Purpose: Which texts are patterns for the value of a field.  Nothing is known of characters beyond
  the ASCII block but their order, so a pattern cannot use their classes or their cases.
Main exports: Log.Pattern.Mode, Log.Pattern.Item, Log.Pattern.State, Log.isPattern
-/
import NodeGauge.Log.Nesting
import NodeGauge.Number.Numeral
import NodeGauge.Text.Blank
import NodeGauge.Text.Number

namespace NodeGauge.Log

namespace Pattern

/-- How a pattern is read from some place on. -/
structure Mode where
  /-- The two cases of a letter are alike. -/
  anyCase : Bool
  /-- The pattern is one of octets, not of characters. -/
  octets : Bool
  /-- Blanks and comments are skipped. -/
  spaced : Bool
deriving Repr, DecidableEq

namespace Mode

/-- How a pattern is read from its start. -/
def plain : Mode := ⟨false, false, false⟩

/-- Whether the two cases of characters would have to be known.  Those of octets are. -/
def needsCases (m : Mode) : Bool := m.anyCase && !m.octets

/-- What follows blanks and comments.  A comment goes from a number sign to the end of its line. -/
def afterBlanks (comment : Bool) : Text → Text
  | [] => []
  | c :: rest =>
      if comment then afterBlanks (c != '\n') rest
      else if Text.isBlank c then afterBlanks false rest
      else if c = '#' then afterBlanks true rest
      else c :: rest

/-- What follows that is not to be skipped. -/
def skip (m : Mode) (s : Text) : Text := if m.spaced then afterBlanks false s else s

/-- The first sign that is not to be skipped, as it is seen from before.  A number sign is passed
like a blank, and what it starts is not. -/
def peek? (m : Mode) (s : Text) : Option Char :=
  if m.spaced then
    match s.dropWhile Text.isBlank with
    | '#' :: comment => (comment.dropWhile Text.isBlank).head?
    | s => s.head?
  else s.head?

/-- Turn a flag on or off. -/
def set (m : Mode) (flag : Char) (on : Bool) : Mode :=
  match flag with
  | 'i' => { m with anyCase := on }
  | 'u' => { m with octets := !on }
  | 'x' => { m with spaced := on }
  | _ => m

end Mode

/-- What a part of a pattern stands for. -/
inductive Item where
  /-- One character, which may be written by its octet. -/
  | character (c : Char) (byOctet : Bool)
  /-- Any character but a line feed. -/
  | any
  /-- The digits, the blanks, the characters of words, or the others. -/
  | family (others : Bool)
  /-- A place at an end of a line or of the text. -/
  | place
  /-- A place at an end of a word, or none such. -/
  | wordEdge
deriving Repr, DecidableEq

namespace Item

/-- Whether an item can be used.  A pattern of octets must not match parts of a character. -/
def isUsable (m : Mode) : Item → Bool
  | character c byOctet => if m.octets then !byOctet || c.toNat < 0x80 else !m.needsCases
  | any => !m.octets
  | family others => m.octets && !others
  | place => true
  | wordEdge => m.octets

/-- Whether an item can be used in a class of characters. -/
def isUsableInClass (m : Mode) : Item → Bool
  | character c _ => if m.octets then c.toNat < 0x80 else !m.needsCases
  | family others => m.octets && !others
  | any | place | wordEdge => false

/-- Whether two items are the ends of a range, in order. -/
def isUpTo : Item → Item → Bool
  | character first _, character last _ => first ≤ last
  | _, _ => false

end Item

/-- Read so many hexadecimal digits behind others. -/
def readDigits (m : Mode) (value : Nat) : Nat → Text → Option (Nat × Text)
  | 0, s => some (value, s)
  | wanted + 1, s =>
      match m.skip s with
      | [] => none
      | c :: rest => do
          let digit ← Numeral.hexValue? c
          readDigits m (16 * value + digit) wanted rest

/-- Read a character that is written by its number. -/
def readNumbered (m : Mode) (digits : Nat) (s : Text) : Option (Item × Text) := do
  let (value, rest) ← readDigits m 0 digits s
  if value.isValidChar then some (.character (.ofNat value) (digits == 2), rest) else none

/-- The controls that have a letter. -/
def controls : List (Char × Char) :=
  [('a', '\x07'), ('t', '\t'), ('n', '\n'), ('v', '\x0b'), ('f', '\x0c'), ('r', '\r')]

/-- Read what follows the escape mark.  Letters and digits have a meaning each, or none; any other
sign of the ASCII block stands for itself. -/
def readEscape (m : Mode) : Text → Option (Item × Text)
  | [] => none
  | c :: rest =>
      match c with
      | 'x' => readNumbered m 2 rest
      | 'u' => readNumbered m 4 rest
      | 'U' => readNumbered m 8 rest
      | 'd' | 's' | 'w' => some (.family false, rest)
      | 'D' | 'S' | 'W' => some (.family true, rest)
      | 'A' | 'z' => some (.place, rest)
      | 'b' | 'B' | '<' | '>' => some (.wordEdge, rest)
      | _ =>
          match controls.lookup c with
          | some control => some (.character control false, rest)
          | none =>
              if c.isAlphanum || 0x80 ≤ c.toNat then none else some (.character c false, rest)

/-- Read an item. -/
def readItem (m : Mode) : Text → Option (Item × Text)
  | [] => none
  | '\\' :: rest => readEscape m rest
  | '.' :: rest => some (.any, rest)
  | '^' :: rest => some (.place, rest)
  | '$' :: rest => some (.place, rest)
  | c :: rest => some (.character c false, rest)

/-- Read an item of a class of characters, where most signs stand for themselves. -/
def readMember (m : Mode) : Text → Option (Item × Text)
  | [] => none
  | '\\' :: rest => readEscape m rest
  | c :: rest => some (.character c false, rest)

/-- The names of the families of ASCII characters. -/
def familyNames : List String :=
  ["alnum", "alpha", "ascii", "blank", "cntrl", "digit", "graph", "lower", "print", "punct",
   "space", "upper", "word", "xdigit"]

/-- Read a family by its name between colons and a bracket, behind the bracket that opens it:
whether its characters are the others, and what follows. -/
def readFamily? : Text → Option (Bool × Text)
  | ':' :: s =>
      let others := s.head? == some '^'
      let s := if others then s.drop 1 else s
      match s.dropWhile (· != ':') with
      | ':' :: ']' :: rest =>
          if familyNames.contains (String.ofList (s.takeWhile (· != ':'))) then some (others, rest)
          else none
      | _ => none
  | _ => none

/-- A place in a class of characters. -/
inductive ClassPlace where
  /-- Behind the opening bracket, where hyphens and a closing bracket stand for themselves. -/
  | opening
  /-- Behind hyphens at the front. -/
  | hyphens
  /-- Behind anything else. -/
  | inside
deriving Repr, DecidableEq

/-- Read a member of a class, or a range from one to another.  A hyphen before the closing bracket
stands for itself, and two of them do not make a range. -/
def readRange (m : Mode) (s : Text) : Option Text := do
  let (first, rest) ← readMember m s
  let single : Option Text := if first.isUsableInClass m then some rest else none
  match m.skip rest with
  | '-' :: behind =>
      let next := m.peek? behind
      if next = some ']' || next = some '-' then single
      else
        let (last, rest) ← readMember m (m.skip behind)
        if first.isUsableInClass m && last.isUsableInClass m && first.isUpTo last then some rest
        else none
  | _ => single

/-- Read the sign behind an opening bracket that turns a class into its others.  Those of a class of
octets are parts of characters. -/
def readOpening (m : Mode) (s : Text) : Option Text :=
  match m.skip s with
  | '^' :: rest => if m.octets then none else some rest
  | s => some s

/-- Read a class of characters from a place in it, with the classes open around it, the innermost
first, and with at most so many steps: its depth and what follows it.  A class without any member
needs no cases. -/
def readClass (m : Mode) :
    Nat → ClassPlace → OpenClass → List OpenClass → Text → Option (Nat × Text)
  | 0, _, _, _, _ => none
  | steps + 1, place, current, outer, s =>
      let behindMember (place : ClassPlace) (rest : Text) : Option (Nat × Text) :=
        if m.needsCases then none else readClass m steps place (current.add 0) outer rest
      let behindOperator := readClass m steps .inside current.operate outer
      match place, m.skip s with
      | _, [] => none
      | .opening, ']' :: rest => behindMember .inside rest
      | .opening, '-' :: rest => behindMember .hyphens rest
      | .hyphens, '-' :: rest => behindMember .hyphens rest
      | _, '[' :: rest =>
          match readFamily? rest with
          | some (others, rest) =>
              if m.octets && others then none else behindMember .inside rest
          | none => (readOpening m rest).bind (readClass m steps .opening .empty (current :: outer))
      | _, ']' :: rest =>
          match outer with
          | [] => some (current.depth + 1, rest)
          | around :: outer => readClass m steps .inside (around.add (current.depth + 1)) outer rest
      | _, '&' :: '&' :: rest => behindOperator rest
      | _, '-' :: '-' :: rest => behindOperator rest
      | _, '~' :: '~' :: rest => behindOperator rest
      | _, s => (readRange m s).bind (behindMember .inside)

/-- Read the flags of a group up to the sign that ends them: the flags in order, with a hyphen
between those to turn on and those to turn off; whether a group follows; and the rest. -/
def readFlags (read : Text) : Text → Option (Text × Bool × Text)
  | [] => none
  | c :: rest =>
      if c = ':' then some (read, true, rest)
      else if c = ')' then some (read, false, rest)
      else if "imsUuRx-".toList.contains c && !read.contains c then readFlags (read ++ [c]) rest
      else none

/-- A mode changed by flags. -/
def Mode.change (m : Mode) (flags : Text) : Mode :=
  let on := flags.takeWhile (· != '-')
  let off := flags.dropWhile (· != '-')
  off.foldl (fun m flag => m.set flag false) (on.foldl (fun m flag => m.set flag true) m)

/-- Whether a text can name a group. -/
def isGroupName : Text → Bool
  | [] => false
  | first :: rest =>
      (first == '_' || Text.isLetter first) &&
        rest.all fun c => c == '_' || c == '.' || c == '[' || c == ']' || Text.isAlphanumeric c

/-- How far a pattern has been read. -/
structure State where
  mode : Mode
  /-- The innermost group that is open. -/
  group : OpenGroup
  /-- The groups around it with their modes, the innermost first. -/
  outer : List (Mode × OpenGroup)
  /-- The names of groups so far. -/
  names : List Text
deriving Repr, DecidableEq

namespace State

/-- Nothing has been read. -/
def start : State := ⟨.plain, .empty, [], []⟩

/-- Open a group. -/
def openGroup (st : State) (inner : Mode) : State :=
  { st with mode := inner, group := .empty, outer := (st.mode, st.group) :: st.outer }

/-- Open a group by its name, which ends at an angle bracket. -/
def openNamed (st : State) (s : Text) : Option (State × Text) :=
  match Text.cut '>' s with
  | none => none
  | some (name, rest) =>
      if isGroupName name && !st.names.contains name then
        some ({ st.openGroup st.mode with names := name :: st.names }, rest)
      else none

/-- Read what follows an opening parenthesis.  What stands behind or before a place cannot be looked
at. -/
def readGroup (st : State) (s : Text) : Option (State × Text) :=
  match st.mode.skip s with
  | '?' :: 'P' :: '<' :: rest => st.openNamed rest
  | '?' :: '<' :: rest =>
      match rest.head? with
      | some '=' | some '!' => none
      | _ => st.openNamed rest
  | '?' :: rest => do
      let (flags, isGroup, rest) ← readFlags [] rest
      if flags.getLast? = some '-' then none
      else if isGroup then some (st.openGroup (st.mode.change flags), rest)
      else if flags.isEmpty then none
      else some ({ st with mode := st.mode.change flags, group := st.group.addFlags }, rest)
  | s => some (st.openGroup st.mode, s)

/-- Read one part of a pattern.  A brace repeats what stands before it only if it is closed, which
it cannot be in a field. -/
def step (st : State) (s : Text) : Option (State × Text) :=
  let add (depth : Nat) : State := { st with group := st.group.add depth }
  match s with
  | [] => none
  | '(' :: rest => st.readGroup rest
  | ')' :: rest =>
      match st.outer with
      | [] => none
      | (mode, group) :: outer =>
          some ({ st with mode, group := group.add (st.group.depth + 1), outer }, rest)
  | '|' :: rest => some ({ st with group := st.group.branch }, rest)
  | '[' :: rest => do
      let members ← readOpening st.mode rest
      let (depth, rest) ← readClass st.mode (members.length + 1) .opening .empty [] members
      return (add depth, rest)
  | '\x7b' :: _ => none
  | c :: rest =>
      if c = '?' || c = '*' || c = '+' then do
        let group ← st.group.repeatLast?
        return ({ st with group }, if rest.head? = some '?' then rest.drop 1 else rest)
      else do
        let (item, rest) ← readItem st.mode s
        if item.isUsable st.mode then some (add 0, rest) else none

/-- Whether a pattern may end here. -/
def mayEnd (st : State) : Bool := st.outer.isEmpty && st.group.depth ≤ depthLimit

/-- Whether the rest of a pattern can be read, in at most so many steps. -/
def accepts : Nat → State → Text → Bool
  | 0, _, _ => false
  | steps + 1, st, s =>
      match st.mode.skip s with
      | [] => st.mayEnd
      | s =>
          match st.step s with
          | some (next, rest) => next.accepts steps rest
          | none => false

end State

end Pattern

/-- Whether a text is a pattern.  Each step reads at least one character. -/
def isPattern (s : Text) : Bool := Pattern.State.start.accepts (s.length + 1) s

end NodeGauge.Log
