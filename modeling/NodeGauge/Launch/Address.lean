/-
Module: NodeGauge.Launch.Address
Purpose: The addresses of hosts, and the texts that stand for them.
Main exports: Launch.HostAddress, Launch.HostAddress.ofDotted?, Launch.HostAddress.ofGrouped?,
  Launch.HostAddress.ofBracketed?
-/
import NodeGauge.Number.Numeral

namespace NodeGauge.Launch

/-- The address of a host. -/
inductive HostAddress where
  /-- An address of 32 bits. -/
  | short (value : Nat)
  /-- An address of eight groups of 16 bits, and the zone of the host in which it holds; zero
  stands for none. -/
  | long (groups : List Nat) (zone : Nat)
deriving Repr, DecidableEq

namespace HostAddress

open Numeral (valueIn?)

/-- The value of one part of a dotted address: hexadecimal behind a zero and a letter, octal behind
a zero, decimal otherwise. -/
def part? : Text → Option Nat
  | '0' :: c :: digits =>
      if c = 'x' || c = 'X' then valueIn? 16 digits else valueIn? 8 (c :: digits)
  | digits => valueIn? 10 digits

/-- Read parts between dots, four at most.  The last one fills the places that are left out. -/
def ofDotted? (s : Text) : Option HostAddress := do
  let parts ← (s.splitOn '.').mapM part?
  let front := parts.dropLast
  let last := parts.getLastD 0
  if parts.length ≤ 4 && front.all (· < 256) && last < Nat.pow 256 (5 - parts.length) then
    some (short (front.foldl (fun n part => 256 * n + part) 0 * Nat.pow 256 (5 - parts.length) +
      last))
  else none

/-- Read four decimal parts between dots, without leading zeros, as two groups. -/
def quad? (s : Text) : Option (List Nat) :=
  let parts := s.splitOn '.'
  if parts.length = 4 && parts.all fun p => p.length ≤ 3 && p.all Numeral.isDigit &&
      !p.isEmpty && (p.length = 1 || p.head? != some '0') && Numeral.value p < 256 then
    match parts.map Numeral.value with
    | [a, b, c, d] => some [256 * a + b, 256 * c + d]
    | _ => none
  else none

/-- Read one group: four hexadecimal digits or fewer. -/
def group? (s : Text) : Option Nat :=
  if s.length ≤ 4 then valueIn? 16 s else none

/-- Read the pieces between colons.  The last one may be four parts between dots. -/
def pieces? (dotted : Bool) : List Text → Option (List Nat)
  | [] => some []
  | [last] => ((group? last).map fun g => [g]).or (if dotted then quad? last else none)
  | first :: rest => do
      let g ← group? first
      return g :: (← pieces? dotted rest)

/-- Read groups between colons, or none at all. -/
def groupList? (dotted : Bool) (s : Text) : Option (List Nat) :=
  if s.isEmpty then some [] else pieces? dotted (s.splitOn ':')

/-- Cut a text at the first two colons in a row. -/
def cutAtGap : Text → Option (Text × Text)
  | [] => none
  | ':' :: ':' :: rest => some ([], rest)
  | c :: rest => (cutAtGap rest).map fun (before, after) => (c :: before, after)

/-- Read eight groups.  Two colons in a row stand for the groups that are left out, which are
zero. -/
def groups? (s : Text) : Option (List Nat) :=
  match cutAtGap s with
  | none => do
      let groups ← groupList? true s
      if groups.length = 8 then some groups else none
  | some (front, back) => do
      let front ← groupList? false front
      let back ← groupList? true back
      if front.length + back.length < 8 then
        some (front ++ List.replicate (8 - front.length - back.length) 0 ++ back)
      else none

/-- Whether groups hold only within a link, and so in one zone. -/
def isLinkLocal (groups : List Nat) : Bool := groups.headD 0 / 0x40 == 0xfe80 / 0x40

/-- Whether groups stand for many hosts. -/
def isMulticast (groups : List Nat) : Bool := groups.headD 0 / 0x100 == 0xff

/-- Whether groups may have a zone that is given by its name: those of a link. -/
def mayNameZone (groups : List Nat) : Bool :=
  isLinkLocal groups || (isMulticast groups && groups.headD 0 % 0x10 == 2)

/-- Read the number of a zone. -/
def zoneNumber? (s : Text) : Option Nat :=
  if !s.isEmpty && s.all Numeral.isDigit && Numeral.value s < 0x100000000 then
    some (Numeral.value s)
  else none

/-- The zone of a host that has no links: its own. -/
def ownZone : Text × Nat := ("lo".toList, 1)

/-- Read groups with a zone behind a percent sign, or without. -/
def ofGrouped? (s : Text) : Option HostAddress :=
  match Text.cut '%' s with
  | none => (groups? s).map fun groups => long groups 0
  | some (address, zone) => do
      let groups ← groups? address
      if mayNameZone groups && zone = ownZone.1 then some (long groups ownZone.2)
      else (zoneNumber? zone).map (long groups)

/-- Read groups between brackets, where a zone is given by its number. -/
def ofBracketed? (s : Text) : Option HostAddress :=
  match s with
  | '[' :: rest =>
      if rest.getLast? = some ']' then
        match Text.cut '%' rest.dropLast with
        | none => (groups? rest.dropLast).map fun groups => long groups 0
        | some (address, zone) => do
            let groups ← groups? address
            (zoneNumber? zone).map (long groups)
      else none
  | _ => none

end HostAddress

end NodeGauge.Launch
