/-
Module: NodeGauge.Text.Blank
Purpose: Blank characters, the words between them, and trimming.
Main exports: Text.isBlank, Text.trim, Text.words
-/
import NodeGauge.Text.Basic

namespace NodeGauge.Text

/-- The white-space characters of every script: tab to carriage return, the space, the next-line
control, and the spaces and separators of other widths.  Zero-width characters and the ASCII
information separators are none of them. -/
def isBlank (c : Char) : Bool :=
  let p := c.toNat
  (0x09 ≤ p && p ≤ 0x0d) || p == 0x20 || p == 0x85 || p == 0xa0 || p == 0x1680 ||
    (0x2000 ≤ p && p ≤ 0x200a) || p == 0x2028 || p == 0x2029 || p == 0x202f || p == 0x205f ||
    p == 0x3000

/-- A text without the blanks at its two ends. -/
def trim (s : Text) : Text :=
  ((s.dropWhile isBlank).reverse.dropWhile isBlank).reverse

/-- The longest runs of characters that are not blank, left to right. -/
def words (s : Text) : List Text :=
  (s.splitOnP isBlank).filter fun word => !word.isEmpty

end NodeGauge.Text
