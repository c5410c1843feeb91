/-
Module: NodeGauge.Json.Compact
Purpose: The JSON texts of truth values, arrays and objects, without a blank anywhere.
Main exports: Json.booleanText, Json.arrayText, Json.member, Json.objectText
-/
import NodeGauge.Json.Quote

namespace NodeGauge.Json

/-- The JSON text of a truth value. -/
def booleanText (b : Bool) : Text := if b then "true".toList else "false".toList

/-- A JSON array of some values. -/
def arrayText (values : List Text) : Text := '[' :: List.intercalate [','] values ++ [']']

/-- One member of a JSON object. -/
def member (key value : Text) : Text := quote key ++ ':' :: value

/-- A JSON object of some members. -/
def objectText (members : List Text) : Text :=
  '\x7b' :: List.intercalate [','] members ++ ['\x7d']

end NodeGauge.Json
