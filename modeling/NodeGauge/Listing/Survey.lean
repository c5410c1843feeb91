/-
Module: NodeGauge.Listing.Survey
Purpose: Everything that one node listing says: the nodes, the rows that cannot be read, and the
  nodes that are reported twice with different rows.
Main exports: Listing.linesOf, Listing.Survey, Listing.Survey.ofLines, Listing.survey
-/
import NodeGauge.Listing.Row
import NodeGauge.Node.Roster
import NodeGauge.Text.Utf8

namespace NodeGauge.Listing

open Node (Record Roster)

/-- The lines of a listing: trimmed, without the empty ones, in ascending order and each once.
A node is listed once for every group that it belongs to, so equal lines are one report. -/
def linesOf (listing : Octets) : List Text :=
  Text.distinctSorted
    (((listing.decode.splitOn '\n').map Text.trim).filter fun line => !line.isEmpty)

/-- A line that cannot be read, and why. -/
structure Rejection where
  line : Text
  fault : Fault
deriving Repr, DecidableEq

/-- What a listing says.  A conflict is the name of a node that has more than one readable line. -/
structure Survey where
  roster : Roster
  rejected : List Rejection
  conflicts : List Text

/-- The texts that occur again in a list, each once, at the place of their second occurrence.
`once` and `again` hold what has occurred so far at least once and at least twice. -/
def repeatedFrom (once again : List Text) : List Text → List Text
  | [] => []
  | name :: names =>
      if name ∈ again then repeatedFrom once again names
      else if name ∈ once then name :: repeatedFrom once (name :: again) names
      else repeatedFrom (name :: once) again names

/-- The texts that occur again in a list, in the order of their second occurrences. -/
def repeated (names : List Text) : List Text := repeatedFrom [] [] names

/-- The rejection of a line that cannot be read. -/
def rejection? (line : Text) : Option Rejection :=
  match readLine line with
  | .error fault => some ⟨line, fault⟩
  | .ok _ => none

/-- What some lines say.  The first line of a name gives its record, and lines that cannot be read
touch no other line. -/
def Survey.ofLines (lines : List Text) : Survey :=
  let records := lines.filterMap fun line => (readLine line).toOption
  { roster := Roster.ofList records
    rejected := lines.filterMap rejection?
    conflicts := repeated (records.map Record.name) }

/-- What a listing says. -/
def survey (listing : Octets) : Survey := Survey.ofLines (linesOf listing)

end NodeGauge.Listing
