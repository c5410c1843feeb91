/-
Module: NodeGauge.Launch.Uri
Purpose: Which strings of octets are addresses of resources, and why the others are none.
Main exports: Launch.UriFault, Launch.UriFault.message, Launch.checkUri
-/
import NodeGauge.Text.Utf8

namespace NodeGauge.Launch

/-- Why octets are no address of a resource. -/
inductive UriFault where
  | empty
  | tooLong
  | schemeTooLong
  | badCharacter
  | badAuthority
  | badFormat
deriving Repr, DecidableEq

/-- The message that reports a fault. -/
def UriFault.message : UriFault → Text
  | empty => "empty string".toList
  | tooLong => "uri too long".toList
  | schemeTooLong => "scheme too long".toList
  | badCharacter => "invalid uri character".toList
  | badAuthority => "invalid authority".toList
  | badFormat => "invalid format".toList

namespace Uri

/-- The octet of an ASCII character. -/
def octet (c : Char) : UInt8 := UInt8.ofNat c.toNat

/-- A letter or a digit of the ASCII block. -/
def isAlphanumeric (b : UInt8) : Bool := b < 0x80 && (Char.ofNat b.toNat).isAlphanum

/-- Whether an octet is one of some ASCII characters. -/
def isOneOf (b : UInt8) (marks : String) : Bool := marks.toList.any fun c => octet c == b

/-- The octets that a scheme may hold. -/
def inScheme (b : UInt8) : Bool := isAlphanumeric b || isOneOf b "+-.~"

/-- The octets that an authority may hold, its brackets and colons and the sign behind the user
among them. -/
def inAuthority (b : UInt8) : Bool := isAlphanumeric b || isOneOf b "!$&'()*+,-.:;=@[]_~"

/-- The octets that may stand in a path.  Some of them ought to be escaped. -/
def inPath (b : UInt8) : Bool :=
  b == 0x21 || b == 0x22 || (0x24 ≤ b && b ≤ 0x3b) || b == 0x3d ||
    (0x40 ≤ b && b ≤ 0x5f) || (0x61 ≤ b && b != 0x7f)

/-- The octets that may stand in a query. -/
def inQuery (b : UInt8) : Bool :=
  b == 0x21 || (0x24 ≤ b && b ≤ 0x3b) || b == 0x3d || (0x3f ≤ b && b != 0x7f)

/-- Every octet up to a number sign must be allowed; what follows the sign is dropped. -/
def allBeforeFragment (allowed : UInt8 → Bool) (octets : Octets) : Bool :=
  (octets.takeWhile (· != octet '#')).all allowed

/-- Check a path and the query behind it. -/
def checkPath (octets : Octets) : Except UriFault Unit :=
  let path := octets.takeWhile fun b => b != octet '?' && b != octet '#'
  let rest := octets.dropWhile fun b => b != octet '?' && b != octet '#'
  if !path.all inPath then .error .badCharacter
  else match rest with
    | b :: query =>
        if b = octet '?' && !allBeforeFragment inQuery query then .error .badCharacter else .ok ()
    | [] => .ok ()

/-- What is known of an authority while it is read. -/
structure AuthorityState where
  colons : Nat
  opened : Bool
  closed : Bool
  escape : Bool
  /-- Whether the last octet was the sign behind the user. -/
  atEnd : Bool
deriving Repr, DecidableEq

/-- The most colons that an authority may hold in a row of parts. -/
def colonLimit : Nat := 8

/-- Read one octet of an authority.  Colons and escapes count from the last bracket or from the
sign behind the user. -/
def AuthorityState.read (a : AuthorityState) (b : UInt8) : Except UriFault AuthorityState :=
  let a := { a with atEnd := false }
  if b = octet ':' then
    if colonLimit ≤ a.colons then .error .badAuthority else .ok { a with colons := a.colons + 1 }
  else if b = octet '[' then
    if a.escape || a.opened then .error .badAuthority else .ok { a with opened := true }
  else if b = octet ']' then
    if !a.opened || a.closed then .error .badAuthority
    else .ok { a with closed := true, colons := 0, escape := false }
  else if b = octet '@' then .ok { a with colons := 0, escape := false, atEnd := true }
  else if b = octet '%' then .ok { a with escape := true }
  else if inAuthority b then .ok a
  else .error .badCharacter

/-- Whether what has been read may end an authority. -/
def AuthorityState.complete (a : AuthorityState) : Bool :=
  a.opened == a.closed && a.colons ≤ 1 && !a.atEnd && !a.escape

/-- Separate the authority at the front from what follows it. -/
def splitAuthority (octets : Octets) : Except UriFault (Octets × Octets) := do
  let ends (b : UInt8) : Bool := b == octet '/' || b == octet '?' || b == octet '#'
  let authority := octets.takeWhile fun b => !ends b
  let state ← authority.foldlM AuthorityState.read ⟨0, false, false, false, false⟩
  if state.complete then return (authority, octets.dropWhile fun b => !ends b)
  else throw .badAuthority

/-- The mark between a scheme and an authority. -/
def schemeMark : Octets := [octet ':', octet '/', octet '/']

/-- The longest scheme. -/
def schemeLimit : Nat := 64

/-- What follows the scheme, if there is one. -/
def afterScheme? (octets : Octets) : Except UriFault (Option Octets) :=
  let scheme := octets.takeWhile inScheme
  let rest := octets.dropWhile inScheme
  if octets.length ≤ schemeMark.length then .ok none
  else if schemeMark.isPrefixOf rest then
    if schemeLimit < scheme.length then .error .schemeTooLong
    else .ok (some (rest.drop schemeMark.length))
  else .ok none

/-- The most octets of an address. -/
def lengthLimit : Nat := 65534

end Uri

open Uri in
/-- Check that octets are the address of a resource: a path alone, an authority alone, or a scheme
with an authority and a path behind it. -/
def checkUri (octets : Octets) : Except UriFault Unit :=
  if lengthLimit < octets.length then .error .tooLong
  else match octets with
    | [] => .error .empty
    | [b] => do
        let (_, behind) ← splitAuthority [b]
        if behind.isEmpty || b = octet '/' then return () else throw .badCharacter
    | first :: rest =>
        if first = octet '/' then checkPath octets
        else do
          match ← afterScheme? (first :: rest) with
          | none =>
              let (_, behind) ← splitAuthority (first :: rest)
              if behind.isEmpty then return () else throw .badFormat
          | some [] => throw .empty
          | some body =>
              let (authority, behind) ← splitAuthority body
              if authority.isEmpty then throw .badFormat else checkPath behind

end NodeGauge.Launch
