import ClientGen.Toml.Date
import ClientGen.Toml.Pieces
import ClientGen.Toml.Scalar

/-!
# Entries of configuration texts

An entry is a name, an equals sign and a value. The name may have points, which lead into
records, and parts in quotes. This file fixes

* the equals sign that divides an entry: one inside quotes does not, and neither does one
  before what could only be a number but is none;
* the parts of a name;
* values that go on over more lines.
-/
namespace ClientGen.Toml

open ClientGen.Text ClientGen.Number

/-! ## 1. Dividing -/

/-- An entry before its value is read; `strict` tells whether a number is written strictly. -/
structure RawEntry where
  name : List Char
  value : List Char
  strict : Bool

/-- Tells whether what follows an equals sign can only be a number, a day or a time. -/
def mustBeNumber (value : List Char) : Bool :=
  match value with
  | [] => false
  | c :: _ =>
    !List.contains [' ', '\t', '\'', '"', '[', '\x7b'] c
      && !List.contains ["true".toList, "false".toList] (trimWhile isBlank value)

/-- Tells whether a text is a number, a day or a time. -/
def isNumberLike (value : List Char) : Except ReadFault Bool := do
  if (readFloat? (String.ofList value)).isSome then return true
  return (← moment? value).isSome || (timeNumbers? value).isSome

/-- Entry whose value comes behind some number of equals signs. If the value must be a number
but is none, the next equals sign divides, as long as that leaves another value. `strict`
tells whether all values so far were strict numbers. -/
def divideAt (pieces : List (List Char)) (strict : Bool) (value : List Char) (count : Nat) :
    Nat → Except ReadFault RawEntry
  | 0 => .error .malformed
  | steps + 1 => do
    let parts := atMost count ['='] pieces
    if !mustBeNumber value || (← isNumberLike value) then
      return ⟨trimWhile isBlank (['='].intercalate parts.dropLast), trimWhile isBlank value, strict⟩
    let next := (atMost (count + 1) ['='] pieces).getLastD []
    if next = value then throw .malformed
    divideAt pieces (strict && isStrictNumber next) next (count + 1) steps

/-- Entry of a line. Underscores in what begins with a digit do not count. With each step one
more equals sign is passed, and once all are, one more step tells that none is left. -/
def rawEntry (line : List Char) : Except ReadFault RawEntry :=
  let pieces := splitOn '=' line
  let count := marksInQuotes (splitOn '=') false (quotePieces line) + 1
  let value := (atMost count ['='] pieces).getLastD []
  let bare := if value.head?.any Char.isDigit then value.filter (· ≠ '_') else value
  divideAt pieces (isStrictNumber value) bare count (pieces.length + 2)

/-! ## 2. Names -/

/-- Pieces of a name between its points; those in quotes are kept whole. -/
def namePieces (inside : Bool) : List (List Char) → List (List Char)
  | [] => []
  | p :: ps =>
    (if inside then [p] else (splitOn '.' p).map (trimWhile isBlank)) ++ namePieces (!inside) ps

/-- Parts of a name that lead into records, and its last part. Empty parts do not lead
anywhere, and at the end they do not count. A name that is as a whole in quotes, of either
kind, has the short escapes. -/
def nameParts (name : List Char) : Except ReadFault (List String × String) :=
  if name.contains '.' then
    let pieces :=
      if name.any isQuote then namePieces false (quotePieces name) else splitOn '.' name
    let pieces := (pieces.reverse.dropWhile List.isEmpty).reverse
    match pieces.getLast? with
    | some last =>
      .ok ((pieces.dropLast.filter (!·.isEmpty)).map String.ofList,
        String.ofList (trimWhile isBlank last))
    | none => .error .outside
  else
    match name.head? with
    | some c =>
      if isQuote c && name.getLast? = some c then
        match decodeShort (between name) with
        | some name => .ok ([], String.ofList name)
        | none => .error .malformed
      else .ok ([], String.ofList name)
    | none => .error .outside

/-! ## 3. Values that go on -/

/-- A value that goes on over more lines: its name, its text so far, and whether a backslash
at the end of the last line hides the line end. -/
structure Pending where
  name : String
  text : List Char
  hidesEnd : Bool
  deriving DecidableEq, Repr

/-- Pending value after a line: a backslash at its end hides the line end. -/
def Pending.ofText (name : String) (text : List Char) : Pending :=
  if Layout.isEscaped text.reverse then ⟨name, text.dropLast, true⟩ else ⟨name, text ++ ['\n'], false⟩

/-- Tells whether a list begins with a text. -/
def isTextList (cs : List Char) : Bool := (trimWhile isBlank (between cs)).head?.any isQuote

/-- Last text of a list that is open: pieces, given from the last on, are joined as long as
they do not begin with a quote. -/
def lastText : List (List Char) → Except ReadFault (List Char)
  | [] => .ok []
  | [p] => .ok p
  | p :: q :: ps =>
    match p.head? with
    | none => .error .outside
    | some c => if isQuote c then .ok p else lastText ((q ++ ',' :: p) :: ps)
termination_by ps => ps.length

/-- Tells whether some characters begin with three quotes and do not end with three. -/
def opensTriple (cs : List Char) : Except ReadFault Bool :=
  match cs with
  | [] => .ok false
  | q :: rest =>
    if !isQuote q then .ok false
    else
      match rest with
      | [] => .error .outside
      | b :: rest =>
        if b ≠ q then .ok false
        else
          match rest with
          | [] => .error .outside
          | c :: _ => .ok (c = q && !(5 < cs.length && [q, q, q].isSuffixOf cs))

/-- Tells whether a value goes on over more lines: a text of several lines, alone or as the
last item of a list. -/
def goesOn (value : List Char) : Except ReadFault Bool := do
  if value.length < 3 then return false
  if value.head? = some '[' && value.getLast? ≠ some ']' && isTextList value then
    opensTriple (← lastText (splitOn ',' (trimWhile isBlank (value.drop 1))).reverse)
  else opensTriple value

end ClientGen.Toml
