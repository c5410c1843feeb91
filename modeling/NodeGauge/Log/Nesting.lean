/-
Module: NodeGauge.Log.Nesting
Purpose: How deep the parts of a pattern are nested.  Repeated parts, groups, classes of characters,
  parts in a row and branches side by side each count as one level.
Main exports: Log.Siblings, Log.OpenClass, Log.OpenGroup, Log.depthLimit
-/

namespace NodeGauge.Log

/-- Parts of a pattern that stand beside each other. -/
structure Siblings where
  count : Nat
  /-- The depth of the deepest part. -/
  deepest : Nat
deriving Repr, DecidableEq

namespace Siblings

/-- No part. -/
def empty : Siblings := ⟨0, 0⟩

/-- One more part of some depth. -/
def add (s : Siblings) (depth : Nat) : Siblings := ⟨s.count + 1, max s.deepest depth⟩

/-- The depth of the parts together.  A part that stands alone gets no level above it. -/
def depth (s : Siblings) : Nat := if s.count ≤ 1 then s.deepest else s.deepest + 1

/-- A part alone is as deep as it is. -/
@[simp] theorem depth_add_empty (depth : Nat) : (empty.add depth).depth = depth := by
  simp [empty, add, Siblings.depth]

end Siblings

/-- A class of characters while it is read. -/
structure OpenClass where
  /-- The members behind the last operator. -/
  members : Siblings
  /-- The depth of what stands before that operator, if there is one. -/
  left : Option Nat
deriving Repr, DecidableEq

namespace OpenClass

/-- A class without members. -/
def empty : OpenClass := ⟨.empty, none⟩

/-- A class with one more member. -/
def add (c : OpenClass) (depth : Nat) : OpenClass := { c with members := c.members.add depth }

/-- The depth of what a class holds.  Each operator joins all before it to what follows. -/
def depth (c : OpenClass) : Nat :=
  match c.left with
  | none => c.members.depth
  | some left => max left c.members.depth + 1

/-- A class with an operator behind what it holds. -/
def operate (c : OpenClass) : OpenClass := ⟨.empty, some c.depth⟩

end OpenClass

/-- A group while it is read, or the pattern as a whole. -/
structure OpenGroup where
  /-- The parts behind the last bar. -/
  parts : Siblings
  /-- The depth of the last of them, if it can be repeated. -/
  last : Option Nat
  /-- The branches before that bar. -/
  branches : Siblings
deriving Repr, DecidableEq

namespace OpenGroup

/-- A group without parts. -/
def empty : OpenGroup := ⟨.empty, none, .empty⟩

/-- A group with one more part. -/
def add (g : OpenGroup) (depth : Nat) : OpenGroup :=
  { g with parts := g.parts.add depth, last := some depth }

/-- A group with flags behind its parts, which are a part that cannot be repeated. -/
def addFlags (g : OpenGroup) : OpenGroup := { g with parts := g.parts.add 0, last := none }

/-- A group whose last part is repeated, if it can be. -/
def repeatLast? (g : OpenGroup) : Option OpenGroup :=
  g.last.map fun depth =>
    { g with parts.deepest := max g.parts.deepest (depth + 1), last := some (depth + 1) }

/-- A group with a bar behind its parts. -/
def branch (g : OpenGroup) : OpenGroup := ⟨.empty, none, g.branches.add g.parts.depth⟩

/-- The depth of what a group holds. -/
def depth (g : OpenGroup) : Nat := (g.branches.add g.parts.depth).depth

end OpenGroup

/-- The greatest depth of a pattern. -/
def depthLimit : Nat := 250

end NodeGauge.Log
