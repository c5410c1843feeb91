/-
Module: NodeGauge.Text.Terminal
Purpose: What a text shows once the characters that steer a terminal are taken out of it.
Main exports: Terminal.Mode, Terminal.mark, Terminal.visible, Terminal.visibleInStream
-/
import NodeGauge.Text.Utf8

namespace NodeGauge.Terminal

/-- What a terminal is in the middle of. -/
inductive Mode where
  /-- Nothing: characters are shown. -/
  | ground
  /-- An escape sequence, behind its first character. -/
  | escape
  /-- An escape sequence, behind a mark that selects its kind. -/
  | escapeMark
  /-- A control sequence, up to its final letter or sign. -/
  | control
  /-- The head of a device string. -/
  | deviceEntry
  /-- The head of a device string, behind a number. -/
  | deviceNumber
  /-- The head of a device string, behind a mark that selects its kind. -/
  | deviceMark
  /-- A string that is for the device or for nobody. -/
  | string
  /-- A string that is for the system. -/
  | systemString
deriving Repr, DecidableEq

/-- The escape character. -/
def escape : Char := '\x1b'

/-- A character that gives up what has been begun. -/
def cancels (c : Char) : Bool := c == '\x18' || c == '\x1a'

/-- A control that moves on in the text. -/
def isMove (c : Char) : Bool := c == '\t' || c == '\n' || c == '\x0c' || c == '\r'

/-- A character that is shown where nothing is in progress. -/
def isShown (c : Char) : Bool :=
  isMove c || (0x20 ≤ c.toNat && c.toNat ≤ 0x7e) || 0x80 ≤ c.toNat

/-- A character with the octet that ends a string among those behind its first one. -/
def endsString (c : Char) : Bool :=
  0x80 ≤ c.toNat && ((Text.utf8 [c]).drop 1).contains 0x9c

namespace Mode

/-- Whether a character is shown.  Those that move on are so within sequences too, but not within
strings. -/
def shows (m : Mode) (c : Char) : Bool :=
  match m with
  | ground => isShown c
  | escape | escapeMark | control => isMove c
  | deviceEntry | deviceNumber | deviceMark | string | systemString => false

/-- The mode behind a character that is not shown. -/
def next (m : Mode) (c : Char) : Mode :=
  let p := c.toNat
  let isMark := 0x20 ≤ p && p ≤ 0x2f
  let isFinal := 0x40 ≤ p && p ≤ 0x7e
  if cancels c then ground
  else if c = Terminal.escape then escape
  else match m with
    | ground => ground
    | escape =>
        match c with
        | '[' => control
        | ']' => systemString
        | 'P' => deviceEntry
        | 'X' | '^' | '_' => string
        | _ => if isMark then escapeMark else if 0x30 ≤ p && p ≤ 0x7e then ground else escape
    | escapeMark => if 0x30 ≤ p && p ≤ 0x7e then ground else escapeMark
    | control => if isFinal then ground else control
    | deviceEntry =>
        if isMark then deviceMark else if 0x30 ≤ p && p ≤ 0x3f then deviceNumber
        else if isFinal then string else deviceEntry
    | deviceNumber =>
        if isMark then deviceMark else if 0x3c ≤ p && p ≤ 0x7e then string else deviceNumber
    | deviceMark => if 0x30 ≤ p && p ≤ 0x7e then string else deviceMark
    | string => if endsString c then ground else string
    | systemString => if c = '\x07' then ground else systemString

end Mode

/-- The characters that are shown from a mode on.  What is shown ends what has been begun. -/
def visibleFrom (m : Mode) : Text → Text
  | [] => []
  | c :: rest =>
      if m.shows c then c :: visibleFrom .ground rest else visibleFrom (m.next c) rest

/-- The characters of a text that are shown. -/
def visible (s : Text) : Text := visibleFrom .ground s

/-- The characters that are shown in a stream.  There a sequence is only laid aside while ASCII
characters are shown, and goes on with the first one that is not. -/
def visibleInStreamFrom (m : Mode) (showing : Bool) : Text → Text
  | [] => []
  | c :: rest =>
      if (showing && isShown c) || m.shows c then
        c :: visibleInStreamFrom (if c.toNat < 0x80 then m else .ground) true rest
      else visibleInStreamFrom (m.next c) false rest

/-- The characters of a text that are shown if it is written to a stream. -/
def visibleInStream (s : Text) : Text := visibleInStreamFrom .ground false s

/-- A sequence that sets how characters look.  It ends what has been begun before it. -/
def mark : Text := [escape, '[', 'm']

/-- A text that is set off from what surrounds it. -/
def marked (s : Text) : Text := mark ++ s ++ mark

end NodeGauge.Terminal
