/-
Module: NodeGauge.Gres.IndexList
Purpose: Lists of device indices, such as `0,2-6`, and the bitmap of the devices that one names.
Main exports: Gres.Bitmap, Gres.Span, Gres.Span.read, Gres.Span.covers, Gres.readIndexList
-/
import NodeGauge.Gres.Fault

namespace NodeGauge.Gres

/-- One flag for each device of a node, by index: whether the device is in use. -/
abbrev Bitmap := List Bool

/-- Consecutive device indices, both ends included. -/
structure Span where
  first : UInt64
  last : UInt64
deriving Repr, DecidableEq

namespace Span

/-- Whether a device belongs to a span. -/
def covers (s : Span) (index : Nat) : Bool := s.first.toNat ≤ index && index ≤ s.last.toNat

/-- Read the numbers of an item: one index, or two around the item's first dash. -/
def ofItem? (item : Text) : Option Span :=
  match item.cut '-' with
  | none => do
      let index ← Numeral.read? item
      return ⟨index, index⟩
  | some (first, last) => return ⟨← Numeral.read? first, ← Numeral.read? last⟩

/-- Read one item of an index list of a node with this many devices.  An item that is not made of
numbers is refused first, then a span that runs backwards, then one that leaves the node. -/
def read (devices : UInt64) (item : Text) : Except Fault Span :=
  match ofItem? item with
  | none => .error (.malformedIndex item)
  | some span =>
      if span.last < span.first then .error (.reversedSpan span.first span.last)
      else if devices ≤ span.last then .error (.indexBeyond span.last devices)
      else .ok span

end Span

/-- What an index list says when no device is in use. -/
def noIndices : Text := "N/A".toList

/-- The bitmap of a number of devices in which the devices of some spans are in use. -/
def bitmapOf (devices : Nat) (spans : List Span) : Bitmap :=
  (List.range devices).map fun index => spans.any (·.covers index)

/-- Read an index list into the bitmap of a node with this many devices.  The number of devices is
checked before the list is looked at, and the leftmost bad item decides the fault. -/
def readIndexList (list : Text) (devices : UInt64) : Except Fault Bitmap :=
  if deviceLimit < devices then .error (.tooManyDevices devices)
  else if list = noIndices then .ok (bitmapOf devices.toNat [])
  else return bitmapOf devices.toNat (← (list.splitOn ',').mapM (Span.read devices))

end NodeGauge.Gres
