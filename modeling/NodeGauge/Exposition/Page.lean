/-
Module: NodeGauge.Exposition.Page
Purpose: Pages of metric families and their text form, one line for each fact.
Main exports: Exposition.Label, Exposition.Sample, Exposition.Family, Exposition.Page,
  Exposition.Page.render, Exposition.contentType
-/
import NodeGauge.Number.Numeral

namespace NodeGauge.Exposition

/-- What the text form calls itself when it is served. -/
def contentType : Text := "text/plain; version=0.0.4; charset=utf-8".toList

/-- How the values of a family behave over time. -/
inductive Kind where
  | counter
  | gauge
deriving Repr, DecidableEq

/-- The word for a kind. -/
def Kind.word : Kind → Text
  | counter => "counter".toList
  | gauge => "gauge".toList

/-- A label: a key and an arbitrary text. -/
structure Label where
  key : Text
  value : Text
deriving Repr, DecidableEq

/-- One value of a family.  A family that has one value for the whole process sets no labels. -/
structure Sample where
  labels : Option (List Label)
  value : Nat
deriving Repr, DecidableEq

/-- The samples of one metric, with its name, what it means and how it behaves. -/
structure Family where
  name : Text
  help : Text
  kind : Kind
  samples : List Sample
deriving Repr, DecidableEq

/-- The families that are published together. -/
abbrev Page := List Family

/-- A character of a label's value between its quotes.  The quote, the escape mark and the line
end are escaped, so that a value ends neither its quotes nor its line. -/
def escaped : Char → Text
  | '\\' => ['\\', '\\']
  | '"' => ['\\', '"']
  | '\n' => ['\\', 'n']
  | c => [c]

/-- The text of a label. -/
def Label.render (l : Label) : Text := l.key ++ '=' :: '"' :: l.value.flatMap escaped ++ ['"']

/-- The labels of a sample between braces, if it sets any. -/
def renderLabels : Option (List Label) → Text
  | none => []
  | some labels =>
      '\x7b' :: List.intercalate [','] (labels.map Label.render) ++ ['\x7d']

/-- The line of a sample in the family of this name. -/
def Sample.render (name : Text) (s : Sample) : Text :=
  name ++ renderLabels s.labels ++ ' ' :: Numeral.ofNat s.value ++ ['\n']

/-- The lines of a family: what it means, how it behaves, and its samples. -/
def Family.render (f : Family) : Text :=
  "# HELP ".toList ++ f.name ++ ' ' :: f.help ++ '\n' ::
    "# TYPE ".toList ++ f.name ++ ' ' :: f.kind.word ++ '\n' ::
    f.samples.flatMap (Sample.render f.name)

/-- The text of a page: its families one after another. -/
def Page.render (page : Page) : Text := page.flatMap Family.render

end NodeGauge.Exposition
