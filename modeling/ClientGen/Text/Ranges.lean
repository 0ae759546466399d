/-!
# Ranges of code points

Character classes beyond ASCII are tables. A row holds the code points `first`,
`first + step`, … up to `last`; a class is a list of rows, and a character is in
the class when some row holds it.
-/
namespace ClientGen.Text

/-- One row of a class: every `step`-th code point from `first` to `last`. -/
structure CodeRange where
  first : Nat
  last : Nat
  step : Nat
  deriving DecidableEq, Repr

/-- Tells whether a row holds a code point. -/
def CodeRange.holds (r : CodeRange) (n : Nat) : Bool :=
  r.first ≤ n && n ≤ r.last && (n - r.first) % r.step == 0

/-- Tells whether some row of the table holds the character. -/
def inRanges (table : List CodeRange) (c : Char) : Bool :=
  table.any (·.holds c.toNat)

end ClientGen.Text
