import ClientGen.Json.Encoding
import ClientGen.Number.Float
import ClientGen.Table
import ClientGen.Value

/-!
# Reading JSON

A document is read with the position and cause of the first error. Beyond the standard
the reader knows the names of infinity and not-a-number; of a key written twice the last
value counts, at the place of the first. Numbers with a point or an exponent are
floating-point, the others integers of any size up to the limit of numerals.
-/
namespace ClientGen.Json

open ClientGen.Text ClientGen.Number

/-! ## 1. Errors -/

/-- What is wrong with a document. -/
inductive Cause where
  | expectingValue
  | expectingName
  | expectingColon
  | expectingComma
  | unterminatedText
  | controlCharacter
  | badEscape
  | badUnicodeEscape
  | extraData
  | byteOrderMark
  deriving DecidableEq, Repr

/-- Wording of a cause. -/
def Cause.message : Cause → String
  | .expectingValue => "Expecting value"
  | .expectingName => "Expecting property name enclosed in double quotes"
  | .expectingColon => "Expecting ':' delimiter"
  | .expectingComma => "Expecting ',' delimiter"
  | .unterminatedText => "Unterminated string starting at"
  | .controlCharacter => "Invalid control character at"
  | .badEscape => "Invalid \\escape"
  | .badUnicodeEscape => "Invalid \\uXXXX escape"
  | .extraData => "Extra data"
  | .byteOrderMark => "Unexpected UTF-8 BOM (decode using utf-8-sig)"

/-- Failure while reading: a cause with the number of characters that were left, a numeral
beyond the limit, or too many lists and records inside each other. -/
inductive Failure where
  | broken (cause : Cause) (left : Nat)
  | numeral (fault : IntegerFault)
  | tooDeep
  deriving DecidableEq, Repr

/-- Failure of a whole document: a cause with its position, a numeral, or its depth. -/
inductive Fault where
  | malformed (cause : Cause) (line column position : Nat)
  | numeral (fault : IntegerFault)
  | tooDeep
  deriving DecidableEq, Repr

/-- Wording of a failure. -/
def Fault.message : Fault → String
  | .malformed cause line column position =>
    cause.message ++ ": line " ++ toString line ++ " column " ++ toString column ++ " (char "
      ++ toString position ++ ")"
  | .numeral fault => fault.message
  | .tooDeep => "maximum recursion depth exceeded"

/-- Fault at a position of a document: lines and columns count from one. -/
def Fault.at (document : List Char) (cause : Cause) (position : Nat) : Fault :=
  let before := document.take position
  let line := before.count '\n' + 1
  let column := (before.reverse.takeWhile (· ≠ '\n')).length + 1
  .malformed cause line column position

/-! ## 2. Scanning -/

/-- Failure at the place where the characters given are left. -/
def failAt (cause : Cause) (cs : List Char) : Except Failure α :=
  .error (.broken cause cs.length)

/-- Tells whether a character is space between tokens. -/
def isSpace (c : Char) : Bool := c = ' ' || c = '\t' || c = '\n' || c = '\r'

/-- What is left after spaces. -/
def skipSpace (cs : List Char) : List Char := cs.dropWhile isSpace

/-- Character meant by a letter after a backslash. -/
def escapedChar? : Char → Option Char
  | '"' => some '"'
  | '\\' => some '\\'
  | '/' => some '/'
  | 'b' => some '\x08'
  | 'f' => some '\x0c'
  | 'n' => some '\n'
  | 'r' => some '\r'
  | 't' => some '\t'
  | _ => none

/-- Characters of a text after its opening quote, as numbers; `opening` is what was left
at that quote, and `acc` holds the numbers read, last first. After an escaped number at
least one more character must follow. -/
def scanText (opening : List Char) (acc : List Nat) :
    List Char → Except Failure (String × List Char)
  | [] => failAt .unterminatedText opening
  | '"' :: rest => .ok (String.ofList (joinHalves acc.reverse), rest)
  | ['\\'] => failAt .unterminatedText opening
  | '\\' :: 'u' :: a :: b :: c :: d :: x :: rest =>
    match hexNumber? [a, b, c, d] with
    | none => failAt .badUnicodeEscape ('u' :: a :: b :: c :: d :: x :: rest)
    | some n => scanText opening (n :: acc) (x :: rest)
  | '\\' :: 'u' :: rest => failAt .badUnicodeEscape ('u' :: rest)
  | '\\' :: c :: rest =>
    match escapedChar? c with
    | some d => scanText opening (d.toNat :: acc) rest
    | none => failAt .badEscape ('\\' :: c :: rest)
  | c :: rest =>
    if c.toNat < 0x20 then failAt .controlCharacter (c :: rest)
    else scanText opening (c.toNat :: acc) rest

/-- Digits, a point and an exponent at the front, as far as they form a number. An integer
may have `limit` digits. -/
def scanNumber? (limit : Nat) (cs : List Char) : Option (Value × List Char ⊕ IntegerFault) :=
  let (negative, body) := match cs with
    | '-' :: rest => (true, rest)
    | rest => (false, rest)
  let whole := match body with
    | '0' :: _ => ['0']
    | rest => rest.takeWhile Char.isDigit
  if whole.isEmpty then none
  else
    let afterWhole := body.drop whole.length
    let fraction := match afterWhole with
      | '.' :: rest => rest.takeWhile Char.isDigit
      | _ => []
    let afterFraction := if fraction.isEmpty then afterWhole else afterWhole.drop (fraction.length + 1)
    let exponent? : Option (Int × List Char) :=
      match afterFraction with
      | e :: rest =>
        if e = 'e' || e = 'E' then
          let (down, ds) := takeSign rest
          let row := ds.takeWhile Char.isDigit
          if row.isEmpty then none
          else some (if down then -(digitsValue row : Int) else digitsValue row, ds.drop row.length)
        else none
      | [] => none
    match exponent? with
    | some (e, rest) =>
      some (.inl (.float (.ofDecimal negative (digitsValue (whole ++ fraction))
        (e - fraction.length)), rest))
    | none =>
      if fraction.isEmpty then
        if limit < whole.length then some (.inr (.tooLong whole.length))
        else
          let n : Int := digitsValue whole
          some (.inl (.int (if negative then -n else n), afterWhole))
      else
        some (.inl (.float (.ofDecimal negative (digitsValue (whole ++ fraction))
          (-(fraction.length : Int))), afterFraction))

/-- Fixed words that are values. -/
def words : List (String × Value) :=
  [("null", .null), ("true", .bool true), ("false", .bool false), ("NaN", .float .nan),
   ("Infinity", .float (.infinite false)), ("-Infinity", .float (.infinite true))]

/-- Fixed word at the front. -/
def scanWord? (cs : List Char) : Option (Value × List Char) :=
  (words.find? fun w => w.1.toList.isPrefixOf cs).map fun w => (w.2, cs.drop w.1.length)

/-- Number or fixed word at the front. -/
def scanScalar (limit : Nat) (cs : List Char) : Except Failure (Value × List Char) :=
  match scanWord? cs with
  | some r => .ok r
  | none =>
    match scanNumber? limit cs with
    | some (.inl r) => .ok r
    | some (.inr fault) => .error (.numeral fault)
    | none => failAt .expectingValue cs

/-- Record of entries read last first: a key written again keeps its first place. -/
def recordOfReversed (entries : List (String × Value)) : Value :=
  .record (Table.ofEntries entries.reverse)

/-- Most lists and records that may stand inside each other in a text. -/
def maxDepth : Nat := 985

mutual

/-- Value at the front; `depth` more lists and records may be opened. -/
def scanValue (limit : Nat) : Nat → Nat → List Char → Except Failure (Value × List Char)
  | 0, _, cs => failAt .expectingValue cs
  | fuel + 1, depth, cs =>
    match cs, depth with
    | '"' :: rest, _ => do
      let (s, rest) ← scanText cs [] rest
      return (.text s, rest)
    | '[' :: rest, depth + 1 =>
      match skipSpace rest with
      | ']' :: rest => .ok (.list [], rest)
      | rest => scanItems limit fuel depth [] rest
    | '\x7b' :: rest, depth + 1 =>
      match skipSpace rest with
      | '\x7d' :: rest => .ok (.record [], rest)
      | rest => scanEntries limit fuel depth [] rest
    | '[' :: _, 0 => .error .tooDeep
    | '\x7b' :: _, 0 => .error .tooDeep
    | cs, _ => scanScalar limit cs

/-- Items of a list up to its end; `acc` holds those read, last first. -/
def scanItems (limit : Nat) : Nat → Nat → List Value → List Char → Except Failure (Value × List Char)
  | 0, _, _, cs => failAt .expectingValue cs
  | fuel + 1, depth, acc, cs => do
    let (v, rest) ← scanValue limit fuel depth cs
    match skipSpace rest with
    | ']' :: rest => return (.list (v :: acc).reverse, rest)
    | ',' :: rest => scanItems limit fuel depth (v :: acc) (skipSpace rest)
    | rest => failAt .expectingComma rest

/-- Entries of a record up to its end; `acc` holds those read, last first. -/
def scanEntries (limit : Nat) :
    Nat → Nat → List (String × Value) → List Char → Except Failure (Value × List Char)
  | 0, _, _, cs => failAt .expectingValue cs
  | fuel + 1, depth, acc, cs =>
    match cs with
    | '"' :: rest => do
      let (key, rest) ← scanText cs [] rest
      match skipSpace rest with
      | ':' :: rest =>
        let (v, rest) ← scanValue limit fuel depth (skipSpace rest)
        match skipSpace rest with
        | '\x7d' :: rest => return (recordOfReversed ((key, v) :: acc), rest)
        | ',' :: rest => scanEntries limit fuel depth ((key, v) :: acc) (skipSpace rest)
        | rest => failAt .expectingComma rest
      | rest => failAt .expectingColon rest
    | cs => failAt .expectingName cs

end

/-! ## 3. Documents -/

/-- Value written in a text whose integers have `limit` digits at most. -/
def readUpTo (limit : Nat) (document : String) : Except Fault Value :=
  let cs := document.toList
  let place (cause : Cause) (left : Nat) : Fault := Fault.at cs cause (cs.length - left)
  match scanValue limit (2 * cs.length + 2) maxDepth (skipSpace cs) with
  | .error (.broken cause left) => .error (place cause left)
  | .error (.numeral fault) => .error (.numeral fault)
  | .error .tooDeep => .error .tooDeep
  | .ok (v, rest) =>
    match skipSpace rest with
    | [] => .ok v
    | rest => .error (place .extraData rest.length)

/-- Value written in a text. -/
def readText (document : String) : Except Fault Value := readUpTo maxDigits document

/-- Value written in a document, which must not begin with a byte order mark. -/
def read (document : String) : Except Fault Value :=
  if document.toList.head? = some (Char.ofNat 0xFEFF) then
    .error (Fault.at document.toList .byteOrderMark 0)
  else readText document

end ClientGen.Json
