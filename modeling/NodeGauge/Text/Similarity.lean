/-
Module: NodeGauge.Text.Similarity
Purpose: How alike two short texts are, for suggestions in place of a mistyped word.
Main exports: Text.alikeness, Text.closest?
-/
import NodeGauge.Text.Basic

namespace NodeGauge.Text

/-- Take the first character of a text that equals `c`, is not taken yet, and stands between two
places. -/
def takeMatch (c : Char) (least bound place : Nat) :
    List (Char × Bool) → Option (List (Char × Bool))
  | [] => none
  | (d, taken) :: rest =>
      if bound ≤ place then none
      else if least ≤ place && c == d && !taken then some ((d, true) :: rest)
      else (takeMatch c least bound (place + 1) rest).map ((d, taken) :: ·)

/-- The characters of a text that find a match in another one no further off than `reach`, in
order, and the other text with its matches taken. -/
def takeMatches (reach place : Nat) :
    Text → List (Char × Bool) → Text × List (Char × Bool)
  | [], other => ([], other)
  | c :: rest, other =>
      match takeMatch c (place - reach) (place + reach + 1) 0 other with
      | some other =>
          let (found, other) := takeMatches reach (place + 1) rest other
          (c :: found, other)
      | none => takeMatches reach (place + 1) rest other

/-- How alike two texts are, between zero and one: the mean of the shares of matched characters in
each of them and of the share of matches that stand in the same order.  A match may be off by less
than half the longer text. -/
def alikeness (a b : Text) : Float :=
  let reach := max a.length b.length / 2 - 1
  let (found, marked) := takeMatches reach 0 a (b.map fun c => (c, false))
  let others := (marked.filter (·.2)).map (·.1)
  let swapped := ((found.zip others).filter fun (c, d) => c != d).length / 2
  let share (part whole : Nat) : Float := part.toFloat / whole.toFloat
  let m := found.length
  if a.isEmpty && b.isEmpty then 1
  else if m = 0 then 0
  else (share m a.length + share m b.length + share (m - swapped) m) / 3

/-- The alikeness that a suggestion must exceed. -/
def leastAlikeness : Float := 0.7

/-- The candidate that is most like a text, if one is alike enough.  Of equally good ones the last
counts. -/
def closest? (candidates : List Text) (s : Text) : Option Text :=
  let scored := (candidates.map fun c => (alikeness s c, c)).filter fun (score, _) =>
    leastAlikeness < score
  (scored.foldl (fun best next =>
    match best with
    | none => some next
    | some current => if current.1 ≤ next.1 then some next else some current)
    (none : Option (Float × Text))).map (·.2)

end NodeGauge.Text
