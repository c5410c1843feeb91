/-
Module: NodeGauge.Listing.Fault
Purpose: Why a row of the node listing cannot be read, and the message for each reason.
Main exports: Listing.columnCount, Listing.NumberField, Listing.Fault, Listing.Fault.message
-/
import NodeGauge.Gres.Fault

namespace NodeGauge.Listing

/-- The number of columns in a row. -/
def columnCount : Nat := 7

/-- The numbers that a row holds outside its resource columns. -/
inductive NumberField where
  | cpuAllocated
  | cpuIdle
  | cpuOther
  | cpuTotal
  | memoryAllocated
  | memoryTotal
deriving Repr, DecidableEq

/-- The name of a number in messages. -/
def NumberField.label : NumberField → Text
  | cpuAllocated => "cpu_allocated".toList
  | cpuIdle => "cpu_idle".toList
  | cpuOther => "cpu_other".toList
  | cpuTotal => "cpu_total".toList
  | memoryAllocated => "alloc_mem".toList
  | memoryTotal => "memory".toList

/-- The reasons for which a row is refused. -/
inductive Fault where
  /-- The row does not have one word for each column. -/
  | wrongColumnCount (found : Nat)
  /-- A number is missing or is none. -/
  | notNumber (field : NumberField) (value : Text)
  /-- The processor column does not have four parts. -/
  | malformedCpu (raw : Text)
  /-- A resource column cannot be read. -/
  | gres (fault : Gres.Fault)
deriving Repr, DecidableEq

/-- The message that reports a fault. -/
def Fault.message : Fault → Text
  | wrongColumnCount found =>
      "expected ".toList ++ Numeral.ofNat columnCount ++ " fields, found ".toList ++
        Numeral.ofNat found
  | notNumber field value =>
      "invalid ".toList ++ field.label ++ " value ".toList ++ value.quoted
  | malformedCpu raw =>
      "cpu state ".toList ++ raw.quoted ++ " is not allocated/idle/other/total".toList
  | gres fault => fault.message

end NodeGauge.Listing
