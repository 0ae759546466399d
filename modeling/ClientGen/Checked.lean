import ClientGen.Number.Integer
import ClientGen.Table
import ClientGen.Value

/-!
# Checked values

Checking a record against a shape reports every issue at once: each issue has the path
to the offending place and a kind. Checks combine so that the issues of all parts are
kept, in the order of the parts.

The rules for scalars are lenient: truth values may be written as the numbers zero and
one or as words, integers as whole floating-point numbers or as numerals.
-/
namespace ClientGen

open ClientGen.Text ClientGen.Number

-- A power is a repeated product.
attribute [local instance (high)] instPowNat

/-! ## 1. Issues -/

/-- Step from a value into one of its parts. -/
inductive Step where
  | key (name : String)
  | index (i : Nat)
  deriving DecidableEq, Repr

/-- Kind of an issue. -/
inductive IssueKind where
  | missing | stringType | boolType | boolParsing | intType | intParsing | intParsingSize
  | intFromFloat | finiteNumber | notListed | tupleType | modelType | dictType
  deriving DecidableEq, Repr

/-- Word for the kind of an issue. -/
def IssueKind.text : IssueKind → String
  | .missing => "missing"
  | .stringType => "string_type"
  | .boolType => "bool_type"
  | .boolParsing => "bool_parsing"
  | .intType => "int_type"
  | .intParsing => "int_parsing"
  | .intParsingSize => "int_parsing_size"
  | .intFromFloat => "int_from_float"
  | .finiteNumber => "finite_number"
  | .notListed => "enum"
  | .tupleType => "tuple_type"
  | .modelType => "model_type"
  | .dictType => "dict_type"

/-- A place that does not fit and why. -/
structure Issue where
  path : List Step
  kind : IssueKind
  deriving DecidableEq, Repr

/-- A record that does not fit its shape: the shape's title and the issues found. -/
structure RecordFault where
  title : String
  issues : List Issue
  deriving DecidableEq, Repr

/-! ## 2. Combining checks -/

/-- Outcome of a check: a value, or the issues found. -/
inductive Checked (α : Type) where
  | good (a : α)
  | bad (issues : List Issue)

namespace Checked

/-- Check of a function and its argument; issues of both are kept. -/
def app : Checked (α → β) → Checked α → Checked β
  | .good f, .good a => .good (f a)
  | .good _, .bad is => .bad is
  | .bad is, .good _ => .bad is
  | .bad is, .bad js => .bad (is ++ js)

instance : Applicative Checked where
  pure := .good
  seq f a := app f (a ())

/-- Issues with a step put before their paths. -/
def under (step : Step) : Checked α → Checked α
  | .good a => .good a
  | .bad is => .bad (is.map fun i => { i with path := step :: i.path })

/-- A single issue at the value itself. -/
def issue (kind : IssueKind) : Checked α := .bad [⟨[], kind⟩]

/-- Checks of the items of a list, counted from `i`. -/
def items (check : Value → Checked α) : Nat → List Value → Checked (List α)
  | _, [] => .good []
  | i, v :: vs => List.cons <$> (check v).under (.index i) <*> items check (i + 1) vs

/-- Outcome of a whole check under the title of its shape. -/
def result (title : String) : Checked α → Except RecordFault α
  | .good a => .ok a
  | .bad is => .error ⟨title, is⟩

end Checked

/-! ## 3. Scalars -/

/-- Words for the truth values. -/
def truthWords : List (String × Bool) :=
  [("0", false), ("off", false), ("f", false), ("false", false), ("n", false), ("no", false),
   ("1", true), ("on", true), ("t", true), ("true", true), ("y", true), ("yes", true)]

/-- Numeral from its first digit that is no zero in front. Zeros and underscores in front
do not count; a point leaves the last zero before it, and a text of zeros leaves one. -/
def fromFirstDigit : List Char → Option (List Char)
  | [] => none
  | '0' :: cs => afterZero '0' cs
  | c :: cs => if c.isDigit then some (c :: cs) else none
where
  /-- The same behind a zero; `last` is the character just passed. -/
  afterZero (last : Char) : List Char → Option (List Char)
    | [] => some [last]
    | c :: cs =>
      if c = '0' || c = '_' then afterZero c cs
      else if c.isDigit || c = '-' then some (c :: cs)
      else if c = '.' then some (last :: c :: cs)
      else none

/-- Numeral without a point that only zeros follow, of which there must be one. -/
def withoutFraction (cs : List Char) : List Char :=
  match cs.dropWhile (· ≠ '.') with
  | '.' :: z :: zs => if (z :: zs).all (· = '0') then cs.takeWhile (· ≠ '.') else cs
  | _ => cs

/-- Numeral without its underscores, if none comes first, last or next to another. -/
def withoutUnderscores (cs : List Char) : List Char :=
  if underscoresBetween cs then cs.filter (· ≠ '_') else cs

/-- Numeral as far as a check looks at it: after one sign in front come zeros and underscores
that do not count. A minus sign may stand behind them too. -/
def lenientNumeral? : List Char → Option (List Char)
  | '+' :: '-' :: _ => none
  | '+' :: cs => fromFirstDigit cs
  | '-' :: cs => (fromFirstDigit cs).map ('-' :: ·)
  | cs => fromFirstDigit cs

/-- Numeral with its sign taken off. -/
def takeMinus : List Char → Bool × List Char
  | '-' :: cs => (true, cs)
  | cs => (false, cs)

/-- Integer of a plain numeral: digits without a zero in front, behind a minus sign or not. -/
def plainInteger? (cs : List Char) : Option Int :=
  let (negative, ds) := takeMinus cs
  if ds.isEmpty || !ds.all Char.isDigit || (ds.head? = some '0' && ds.length ≠ 1) then none
  else some (if negative then -(digitsValue ds : Int) else digitsValue ds)

/-- Tells whether a plain numeral is too long, whatever follows it. -/
def isTooLong (cs : List Char) : Bool :=
  let row := (takeMinus cs).2.takeWhile Char.isDigit
  row.head? ≠ some '0' && maxDigits < row.length

/-- Outcome of reading a lenient numeral. -/
inductive LenientInteger where
  | value (n : Int)
  | malformed
  | tooLong

/-- Integer of a lenient numeral: spaces around, a sign, zeros in front, single underscores
between digits, and a point that only zeros follow. One that is too long is said to be so if
it is written plainly, and is malformed otherwise. -/
def lenientInteger (s : String) : LenientInteger :=
  let body := trimWhile isNumeralBlank s.toList
  let plain := ((lenientNumeral? body).map fun cs => withoutUnderscores (withoutFraction cs)).getD body
  if isTooLong plain then if plain = body then .tooLong else .malformed
  else
    match plainInteger? plain with
    | some n => .value n
    | none => .malformed

/-- Tells whether an integer fits into 64 bits with a sign. -/
def fitsSigned (n : Int) : Bool := -2 ^ (63 : Nat) ≤ n && n < 2 ^ (63 : Nat)

namespace Check

/-- Checks for a text. -/
def text : Value → Checked String
  | .text s => .good s
  | _ => .issue .stringType

/-- Checks for a text or null. -/
def optionalText : Value → Checked (Option String)
  | .null => .good none
  | .text s => .good (some s)
  | _ => .issue .stringType

/-- Truth value of a number: zero and one have one. -/
def truthOfNumber (n : Int) : Checked Bool :=
  if n = 0 then .good false else if n = 1 then .good true else .issue .boolParsing

/-- Checks for a truth value. -/
def truth : Value → Checked Bool
  | .bool b => .good b
  | .int n => if fitsSigned n then truthOfNumber n else .issue .boolType
  | .float x =>
    match x.toInt? with
    | some n => if fitsSigned n && n ≠ -2 ^ (63 : Nat) then truthOfNumber n else .issue .boolType
    | none => .issue .boolType
  | .text s =>
    match truthWords.lookup (String.ofList (s.toList.map Char.toLower)) with
    | some b => .good b
    | none => .issue .boolParsing
  | _ => .issue .boolType

/-- Checks for an integer. A floating-point number must be whole and inside the range of 64
bits, whose bounds do not belong to it. -/
def integer : Value → Checked Int
  | .int n => .good n
  | .bool b => .good (if b then 1 else 0)
  | .float x =>
    match x, x.toInt? with
    | _, some n => if fitsSigned n && n ≠ -2 ^ (63 : Nat) then .good n else .issue .intParsingSize
    | .finite _ _ _, none => .issue .intFromFloat
    | _, none => .issue .finiteNumber
  | .text s =>
    match lenientInteger s with
    | .value n => .good n
    | .malformed => .issue .intParsing
    | .tooLong => .issue .intParsingSize
  | _ => .issue .intType

/-- Checks for one of the listed texts. -/
def listed (ofText? : String → Option α) : Value → Checked α
  | .text s =>
    match ofText? s with
    | some a => .good a
    | none => .issue .notListed
  | _ => .issue .notListed

/-- Checks for a list. -/
def list (check : Value → Checked α) : Value → Checked (List α)
  | .list vs => Checked.items check 0 vs
  | _ => .issue .tupleType

/-- Checks for a record of a shape. -/
def record (check : Record → Checked α) : Value → Checked α
  | .record r => check r
  | _ => .issue .modelType

/-- Entry that must be there. -/
def entry (r : Record) (key : String) (check : Value → Checked α) : Checked α :=
  match Table.get? r key with
  | some v => (check v).under (.key key)
  | none => .bad [⟨[.key key], .missing⟩]

/-- Entry with a value for its absence. -/
def entryOr (r : Record) (key : String) (default : α) (check : Value → Checked α) : Checked α :=
  match Table.get? r key with
  | some v => (check v).under (.key key)
  | none => .good default

end Check

end ClientGen
