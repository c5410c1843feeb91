/-
Module: NodeGauge.Gres.Descriptor
Purpose: Descriptors of GPU resources: `gpu:TYPE:COUNT`, optionally followed by one group in
  parentheses.
Main exports: Gres.noResource, Gres.Descriptor, Gres.Descriptor.read, Gres.Descriptor.indexList?
-/
import NodeGauge.Gres.Fault

namespace NodeGauge.Gres

/-- What the scheduler reports for a node without any generic resource. -/
def noResource : Text := "(null)".toList

/-- A GPU resource: the type of the devices, how many they are, and the text of the group behind
the count, without its parentheses. -/
structure Descriptor where
  gpuType : Text
  count : UInt64
  group : Option Text
deriving Repr, DecidableEq

namespace Descriptor

/-- Separate a descriptor's head from its group.  The group starts at the first opening
parenthesis and must be closed by the last character of the text. -/
def splitGroup (raw : Text) : Except Fault (Text × Option Text) :=
  match raw.cut '(' with
  | none => .ok (raw, none)
  | some (head, rest) =>
      match rest.getLast? with
      | some ')' => .ok (head, some rest.dropLast)
      | _ => .error (.malformed raw)

/-- Read a descriptor.  Its head has exactly three parts between colons: the resource name, a
type that is not empty, and the count. -/
def read (raw : Text) : Except Fault Descriptor := do
  let (head, group) ← splitGroup raw
  match head.splitOn ':' with
  | [['g', 'p', 'u'], gpuType, count] =>
      if gpuType.isEmpty then .error (.malformed raw)
      else match Numeral.read? count with
        | some n => .ok ⟨gpuType, n, group⟩
        | none => .error (.countNotNumber count)
  | _ => .error (.malformed raw)

/-- The list of devices in use, when the group of the descriptor is one. -/
def indexList? (d : Descriptor) : Option Text :=
  match d.group with
  | some ('I' :: 'D' :: 'X' :: ':' :: list) => some list
  | _ => none

end Descriptor

end NodeGauge.Gres
