import ClientGen.Number.Float

/-!
# Decimal numerals

The texts that stand for an exact decimal number: white space around, underscores
anywhere, digits of any script, one sign, then a numeral, infinity, or a quiet or
signalling not-a-number with a row of digits as its payload. The exponent of the first
digit must not exceed 10^18 - 1 and that of the last must not fall below the matching
bound, so that no digit is lost.
-/
namespace ClientGen.Number

open ClientGen.Text

/-- Reasons why a text is no decimal number. -/
inductive DecimalFault where
  | malformed
  | outOfRange
  deriving DecidableEq, Repr

/-- Wording of the reason. -/
def DecimalFault.message : DecimalFault → String
  | .malformed => "[<class 'decimal.ConversionSyntax'>]"
  | .outOfRange => "[<class 'decimal.InvalidOperation'>]"

/-- Largest exponent of a first digit. -/
def maxDecimalExponent : Int := 999999999999999999

/-- Smallest exponent of a last digit. -/
def minDecimalScale : Int := -1999999999999999997

/-- Characters of a decimal numeral: trimmed, underscores dropped, digits in ASCII; none
when a character of another script is no digit. -/
def decimalBody? (s : String) : Option (List Char) :=
  let body := toAsciiDigits ((trimWhile isBlank s.toList).filter (· ≠ '_'))
  if body.all fun c => 0 < c.toNat && c.toNat < 0x80 then some body else none

/-- Number of digits from the first that is not zero, one for zero itself. -/
def significantDigits (n : Nat) : Int := (toString n).length

/-- Tells whether a numeral's digits all fit in range. -/
def DecimalNumeral.inRange (n : DecimalNumeral) : Bool :=
  n.scale + significantDigits n.digits - 1 ≤ maxDecimalExponent && minDecimalScale ≤ n.scale

/-- Checks that a text is a decimal number. -/
def checkDecimal (s : String) : Except DecimalFault Unit :=
  match decimalBody? s with
  | none => .error .malformed
  | some body =>
    let (_, rest) := takeSign body
    let word := rest.map Char.toLower
    let payload? :=
      if "nan".toList.isPrefixOf word then some (word.drop 3)
      else if "snan".toList.isPrefixOf word then some (word.drop 4)
      else none
    match payload? with
    | some payload => if payload.all Char.isDigit then .ok () else .error .malformed
    | none =>
      if word = "inf".toList || word = "infinity".toList then .ok ()
      else match readNumeral? rest with
        | none => .error .malformed
        | some n => if n.inRange then .ok () else .error .outOfRange

end ClientGen.Number
