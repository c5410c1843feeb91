/-
Module: NodeGauge.Gres.Fault
Purpose: Why a generic-resource text cannot be read, and the message for each reason.
Main exports: Gres.deviceLimit, Gres.Fault, Gres.Fault.message
-/
import NodeGauge.Number.Numeral
import NodeGauge.Text.Quoted

namespace NodeGauge.Gres

/-- The greatest number of devices that one node may advertise. -/
def deviceLimit : UInt64 := 65535

/-- The reasons for which a generic-resource text is refused, each with the text or the numbers
that are at fault. -/
inductive Fault where
  /-- The text is no descriptor of GPUs. -/
  | malformed (raw : Text)
  /-- The count of a descriptor is no number. -/
  | countNotNumber (count : Text)
  /-- The descriptor advertises more devices than a node may have. -/
  | tooManyDevices (count : UInt64)
  /-- The descriptor of the devices in use does not list them. -/
  | noIndexList (raw : Text)
  /-- An item of an index list is neither a number nor two numbers around a dash. -/
  | malformedIndex (item : Text)
  /-- A span of indices ends before it starts. -/
  | reversedSpan (first last : UInt64)
  /-- An index lies beyond the last device. -/
  | indexBeyond (index devices : UInt64)
deriving Repr, DecidableEq

/-- The message that reports a fault. -/
def Fault.message : Fault → Text
  | malformed raw =>
      "gres descriptor ".toList ++ raw.quoted ++ " is not gpu:<type>:<count>".toList
  | countNotNumber count => "gres count ".toList ++ count.quoted ++ " is not a number".toList
  | tooManyDevices count =>
      "gres count ".toList ++ Numeral.write count ++ " exceeds ".toList ++
        Numeral.write deviceLimit ++ " devices per node".toList
  | noIndexList raw => "allocated gres ".toList ++ raw.quoted ++ " has no IDX list".toList
  | malformedIndex item => "invalid gpu index token ".toList ++ item.quoted
  | reversedSpan first last =>
      "gpu index range ".toList ++ Numeral.write first ++ '-' :: Numeral.write last ++
        " is reversed".toList
  | indexBeyond index devices =>
      "gpu index ".toList ++ Numeral.write index ++ " out of range for ".toList ++
        Numeral.write devices ++ " devices".toList

end NodeGauge.Gres
