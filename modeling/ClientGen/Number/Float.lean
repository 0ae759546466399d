import ClientGen.Number.Binary64
import ClientGen.Number.Integer

/-!
# Floating-point numerals

Reading a double from free text: white space around it, one sign, then infinity or not a
number by name in any case, or decimal digits with a point and an exponent. Underscores
may stand between two digits.
-/
namespace ClientGen.Number

open ClientGen.Text

/-- A decimal numeral without its sign: digits before and after the point, exponent. -/
structure DecimalNumeral where
  whole : List Char
  fraction : List Char
  exponent : Int
  deriving DecidableEq, Repr

/-- Exponent part of a numeral, nothing meaning zero. -/
def readExponent? : List Char → Option Int
  | [] => some 0
  | c :: cs =>
    if c = 'e' || c = 'E' then
      let (negative, ds) := takeSign cs
      if ds.isEmpty || !ds.all Char.isDigit then none
      else some (if negative then -(digitsValue ds : Int) else digitsValue ds)
    else none

/-- Numeral of digits with at most one point, at least one digit, and an exponent part. -/
def readNumeral? (cs : List Char) : Option DecimalNumeral := do
  let whole := cs.takeWhile Char.isDigit
  let afterWhole := cs.dropWhile Char.isDigit
  let (fraction, rest) :=
    match afterWhole with
    | '.' :: ds => (ds.takeWhile Char.isDigit, ds.dropWhile Char.isDigit)
    | ds => ([], ds)
  if whole.isEmpty && fraction.isEmpty then none
  else return ⟨whole, fraction, ← readExponent? rest⟩

/-- Digits of a numeral as one whole number. -/
def DecimalNumeral.digits (n : DecimalNumeral) : Nat := digitsValue (n.whole ++ n.fraction)

/-- Exponent of ten that belongs to the digits as a whole number. -/
def DecimalNumeral.scale (n : DecimalNumeral) : Int := n.exponent - n.fraction.length

/-- Each underscore has a digit on both sides. -/
def underscoresBesideDigits : Char → List Char → Bool
  | before, '_' :: c :: cs => before.isDigit && c.isDigit && underscoresBesideDigits c cs
  | _, ['_'] => false
  | _, c :: cs => underscoresBesideDigits c cs
  | _, [] => true

/-- Double written in a text. -/
def readFloat? (s : String) : Option Binary64 :=
  let body := numeralBody s
  if !underscoresBesideDigits ' ' body then none
  else
    let (negative, rest) := takeSign (body.filter (· ≠ '_'))
    let word := String.ofList (rest.map Char.toLower)
    if word = "inf" || word = "infinity" then some (.infinite negative)
    else if word = "nan" then some .nan
    else (readNumeral? rest).map fun n => .ofDecimal negative n.digits n.scale

end ClientGen.Number
