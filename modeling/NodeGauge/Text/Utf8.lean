/-
Module: NodeGauge.Text.Utf8
Purpose: The octets of a text, and a total decoder that puts the replacement character in place of
  each longest run of octets that begins a character and cannot complete one.
Main exports: Octets, Text.utf8, Octets.Window, Octets.windowsAfter, Octets.decode
-/
import NodeGauge.Text.Basic

namespace NodeGauge

/-- A string of octets. -/
abbrev Octets := List UInt8

namespace Text

/-- The UTF-8 octets of a text. -/
def utf8 (s : Text) : Octets := s.flatMap String.utf8EncodeChar

end Text

namespace Octets

/-- The character that stands for octets which are no character. -/
def replacement : Char := '\ufffd'

/-- The least and the greatest octet that may come at a place. -/
structure Window where
  least : UInt8
  greatest : UInt8
deriving Repr, DecidableEq

/-- Membership of an octet in a window. -/
def Window.admits (w : Window) (b : UInt8) : Bool := w.least ≤ b && b ≤ w.greatest

/-- Any continuation octet. -/
def Window.tail : Window := ⟨0x80, 0xbf⟩

/-- The windows of the octets that complete a character after its lead octet, or nothing for an
octet that leads none.  The first window excludes longer forms than needed, the surrogates, and
code points beyond the last plane. -/
def windowsAfter (lead : UInt8) : Option (List Window) :=
  if lead < 0x80 then some []
  else if lead < 0xc2 then none
  else if lead < 0xe0 then some [.tail]
  else if lead = 0xe0 then some [⟨0xa0, 0xbf⟩, .tail]
  else if lead = 0xed then some [⟨0x80, 0x9f⟩, .tail]
  else if lead < 0xf0 then some [.tail, .tail]
  else if lead = 0xf0 then some [⟨0x90, 0xbf⟩, .tail, .tail]
  else if lead < 0xf4 then some [.tail, .tail, .tail]
  else if lead = 0xf4 then some [⟨0x80, 0x8f⟩, .tail, .tail]
  else none

/-- The bits of the code point that a lead octet carries, by the number of octets that follow. -/
def leadBits (lead : UInt8) : Nat → Nat
  | 0 => lead.toNat
  | 1 => lead.toNat % 0x20
  | 2 => lead.toNat % 0x10
  | _ => lead.toNat % 0x08

/-- Read the octets that complete a character whose bits so far are `point`.  The first octet
outside its window ends the character as a replacement and stays in the rest. -/
def complete (point : Nat) : List Window → Octets → Char × Octets
  | [], rest => (Char.ofNat point, rest)
  | w :: ws, b :: rest =>
      if w.admits b then complete (point * 0x40 + b.toNat % 0x40) ws rest
      else (replacement, b :: rest)
  | _ :: _, [] => (replacement, [])

/-- Completing a character never gives octets back. -/
theorem length_complete_le (point : Nat) (ws : List Window) (octets : Octets) :
    (complete point ws octets).2.length ≤ octets.length := by
  induction ws generalizing point octets with
  | nil => simp [complete]
  | cons w ws ih =>
      cases octets with
      | nil => simp [complete]
      | cons b rest =>
          simp only [complete]
          split
          · exact Nat.le_succ_of_le (ih _ rest)
          · simp

/-- The text of a string of octets.  It is total: octets that are no character become one
replacement for each longest run that could still have begun one. -/
def decode : Octets → Text
  | [] => []
  | lead :: rest =>
      match windowsAfter lead with
      | none => replacement :: decode rest
      | some ws =>
          let next := complete (leadBits lead ws.length) ws rest
          next.1 :: decode next.2
termination_by octets => octets.length
decreasing_by
  · simp
  · exact Nat.lt_succ_of_le (length_complete_le _ _ _)

end Octets

end NodeGauge
