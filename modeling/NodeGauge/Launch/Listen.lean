/-
Module: NodeGauge.Launch.Listen
Purpose: Addresses on which the program can take requests, on a host without links and without
  privileges.
Main exports: Launch.ListenFault, Launch.ListenFault.message, Launch.listen
-/
import NodeGauge.Launch.Address
import NodeGauge.Query.OsError

namespace NodeGauge.Launch

open Query (OsError)

/-- Why no requests can be taken on an address. -/
inductive ListenFault where
  /-- The address has no colon, and so no number behind the host. -/
  | noNumber
  /-- What stands behind the last colon is no number below 65536. -/
  | badNumber
  /-- The host has no address that is known. -/
  | unknownHost
  /-- Nobody can be asked for the address of the host. -/
  | noResolver
  /-- The system refuses the address. -/
  | refused (e : OsError)
deriving Repr, DecidableEq

/-- The message that reports a fault. -/
def ListenFault.message : ListenFault → Text
  | noNumber => "invalid socket address".toList
  | badNumber => "invalid port value".toList
  | unknownHost =>
      "failed to lookup address information: Name or service not known".toList
  | noResolver =>
      "failed to lookup address information: Temporary failure in name resolution".toList
  | refused e => e.message

namespace Listen

/-- Cut an address at its last colon. -/
def hostAndNumber? (address : Text) : Option (Text × Text) :=
  (Text.cut ':' address.reverse).map fun (number, host) => (host.reverse, number.reverse)

/-- Read the number that tells the services of one host apart. -/
def serviceNumber? (s : Text) : Option Nat :=
  match Numeral.read? s with
  | some n => if n < 65536 then some n.toNat else none
  | none => none

/-- Whether a number is kept for the services of the host's owner. -/
def isReserved (service : Nat) : Bool := 0 < service && service < 1024

/-- Whether groups stand for every address of the host, or for an address of 32 bits. -/
def isOpen (groups : List Nat) : Bool :=
  groups.all (· == 0) || groups.take 6 == [0, 0, 0, 0, 0, 0xffff]

/-- What becomes of an address.  The host has no links, so that it cannot know which addresses of
32 bits are foreign, while it knows that no other groups are its own. -/
def bind (service : Nat) : HostAddress → Except OsError Unit
  | .short _ => if isReserved service then .error .permissionDenied else .ok ()
  | .long groups zone =>
      if HostAddress.isMulticast groups then .error .invalidArgument
      else if isReserved service then .error .permissionDenied
      else if isOpen groups then .ok ()
      else if HostAddress.isLinkLocal groups && zone = 0 then .error .invalidArgument
      else if HostAddress.isLinkLocal groups && zone != HostAddress.ownZone.2 then
        .error .noDevice
      else .error .addressNotAvailable

/-- Whether a text can be a part of a name. -/
def isLabel (s : Text) : Bool :=
  !s.isEmpty && s.length ≤ 63 && s.all fun c => c.isAlphanum || c == '-' || c == '_'

/-- Whether a text can be the name of a host: parts between dots, and perhaps a dot behind them. -/
def isName (s : Text) : Bool :=
  let name := if s.getLast? = some '.' then s.dropLast else s
  s = ['.'] || (name.length ≤ 253 && name.head? != some '-' && (name.splitOn '.').all isLabel)

/-- The address that a text stands for.  The only name that is known without asking anybody is that
of the host itself. -/
def resolve (host : Text) : Except ListenFault HostAddress :=
  match (HostAddress.ofDotted? host).or (HostAddress.ofGrouped? host) with
  | some address => .ok address
  | none =>
      if host.map Char.toLower = "localhost".toList then .ok (.short 0x7f000001)
      else if isName host then .error .noResolver
      else .error .unknownHost

/-- The address of a host.  Brackets may stand around groups if the number behind them is digits
only. -/
def hostAddress (host number : Text) : Except ListenFault HostAddress :=
  match HostAddress.ofBracketed? host with
  | some address => if number.all Numeral.isDigit then .ok address else .error .unknownHost
  | none => resolve host

end Listen

open Listen in
/-- Take requests on an address: a host, a colon, and the number of a service. -/
def listen (address : Text) : Except ListenFault Unit :=
  match hostAndNumber? address with
  | none => .error .noNumber
  | some (host, number) =>
      match serviceNumber? number with
      | none => .error .badNumber
      | some service => do
          let known ← hostAddress host number
          (bind service known).mapError .refused

end NodeGauge.Launch
