import ClientGen.Text.Blank
import ClientGen.Text.Digit
import ClientGen.Text.Quoted

/-!
# Integer numerals

Reading an integer from free text: white space around it, one sign, then decimal digits
of any script with single underscores allowed between two digits. Writing is the plain
decimal numeral. Numerals of more than 4300 digits are neither read nor written.
-/
namespace ClientGen.Number

open ClientGen.Text

/-! ## 1. Characters of a numeral -/

/-- White space around a numeral: the information separators do not count. -/
def isNumeralBlank (c : Char) : Bool :=
  isBlank c && !(0x1C ≤ c.toNat && c.toNat ≤ 0x1F)

/-- Decimal digits of other scripts as ASCII digits, the rest unchanged. -/
def toAsciiDigits (cs : List Char) : List Char :=
  cs.map fun c => ((decimalValue? c).map digitChar).getD c

/-- Numeral without the white space around it, its digits in ASCII. -/
def numeralBody (s : String) : List Char := toAsciiDigits (trimWhile isNumeralBlank s.toList)

/-- Value of a row of ASCII digits. -/
def digitsValue (cs : List Char) : Nat := cs.foldl (fun n c => 10 * n + (c.toNat - 48)) 0

/-- Sign of a numeral and what follows it. -/
def takeSign : List Char → Bool × List Char
  | '-' :: cs => (true, cs)
  | '+' :: cs => (false, cs)
  | cs => (false, cs)

/-- Underscores stand only between two digits: none comes first, last or next to another. -/
def underscoresBetween (cs : List Char) : Bool :=
  cs.head? ≠ some '_' && cs.getLast? ≠ some '_' &&
    (cs.zip cs.tail).all fun p => !(p.1 = '_' && p.2 = '_')

/-! ## 2. Reading -/

/-- Most digits that a numeral may have, read or written. -/
def maxDigits : Nat := 4300

/-- Reasons why a text is no integer. -/
inductive IntegerFault where
  | malformed (text : String)
  | tooLong (digits : Nat)
  deriving DecidableEq, Repr

/-- Wording of the reason; a long text is cut after 200 characters of its quoted form. -/
def IntegerFault.message : IntegerFault → String
  | .malformed s =>
    "invalid literal for int() with base 10: " ++ String.ofList ((quoted s).toList.take 200)
  | .tooLong n =>
    "Exceeds the limit (4300 digits) for integer string conversion: value has " ++ toString n
      ++ " digits; use sys.set_int_max_str_digits() to increase the limit"

/-- Integer written in a text. The length of the leading digit row is looked at before
what follows it. -/
def readInteger (s : String) : Except IntegerFault Int :=
  let (negative, body) := takeSign (numeralBody s)
  let row := body.takeWhile fun c => c.isDigit || c = '_'
  let digits := row.filter Char.isDigit
  if row.isEmpty || !underscoresBetween row then .error (.malformed s)
  else if maxDigits < digits.length then .error (.tooLong digits.length)
  else if row.length ≠ body.length then .error (.malformed s)
  else .ok (if negative then -(digitsValue digits : Int) else digitsValue digits)

/-! ## 3. Writing -/

/-- Decimal numeral of an integer. -/
def integerText (n : Int) : String :=
  if n < 0 then "-" ++ toString n.natAbs else toString n.natAbs

/-- Tells whether an integer has more digits than are ever written. -/
def isLong (n : Int) : Bool := maxDigits < (toString n.natAbs).length

end ClientGen.Number
