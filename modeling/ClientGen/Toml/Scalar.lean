import ClientGen.Number.Float
import ClientGen.Text.Letter
import ClientGen.Toml.Layout
import ClientGen.Value

/-!
# Scalars of configuration texts

Texts and numbers as they stand after an equals sign. A text in double quotes has
escapes, one in single quotes has none. A number may have a sign, underscores between
digits, and a base; zeros in front are refused.
-/
namespace ClientGen.Toml

open ClientGen.Text ClientGen.Number

-- A power is a repeated product.
attribute [local instance (high)] instPowNat

/-! ## 1. Texts -/

/-- Letters of one-character escapes with what they stand for. -/
def escapes : List (Char × Char) :=
  [('0', '\x00'), ('b', '\x08'), ('f', '\x0c'), ('n', '\n'), ('r', '\r'), ('t', '\t'), ('"', '"')]

/-- Tells whether nothing follows the closing quote, given the pieces between quotes.
`closed` tells whether the text is closed already, `empties` counts the empty pieces since
the last other one. A piece that ends in an odd number of backslashes does not close. -/
def closesAtEnd (triple closed : Bool) (empties : Nat) : List (List Char) → Bool
  | [] => true
  | [] :: ps =>
    if triple then closesAtEnd triple closed (empties + 1) ps else closesAtEnd triple true empties ps
  | p :: ps =>
    if Layout.isEscaped p.reverse then closesAtEnd triple closed empties ps
    else if closed then false
    else if !triple || 1 < empties then closesAtEnd triple true empties ps
    else closesAtEnd triple closed 0 ps

/-- Tells whether every backslash begins an escape or is itself escaped. -/
def escapesKnown : List Char → Bool
  | '\\' :: '\\' :: cs => escapesKnown cs
  | '\\' :: c :: cs =>
    ((escapes.lookup c).isSome || c = 'u' || c = 'U') && escapesKnown cs
  | _ :: cs => escapesKnown cs
  | [] => true

/-- Pieces of a text around a mark of two characters. -/
def splitPairs (a b : Char) : List Char → List (List Char)
  | [] => [[]]
  | [c] => [[c]]
  | c :: d :: cs =>
    if c = a && d = b then [] :: splitPairs a b cs
    else match splitPairs a b (d :: cs) with
      | [] => [[c]]
      | p :: ps => (c :: p) :: ps

/-- Character of the hexadecimal digits of an escape, in any case. There must be a digit, and
another one behind a first `d`, which is none of those that begin a half of a pair. Behind
other digits a half is let pass. -/
def charOfDigits (digits : List Char) : Except ReadFault Char := do
  let digits := digits.map Char.toLower
  let some n := hexNumber? digits | throw .malformed
  match digits with
  | [] | ['d'] => throw .outside
  | 'd' :: d :: _ => if '7' < d then throw .malformed
  | _ => pure ()
  if 2 ^ (31 : Nat) ≤ n then throw .tooLarge
  if 0x10FFFF < n then throw .malformed else return charOf n

/-- Characters given by hexadecimal digits after each mark; a mark whose backslash is
itself escaped is left as it is. -/
def decodeMarks (mark : Char) (width : Nat) (escaped : Bool) (done : List Char) :
    List (List Char) → Except ReadFault (List Char)
  | [] => .ok done
  | p :: ps =>
    if escaped then
      decodeMarks mark width (Layout.isEscaped p.reverse) (done ++ '\\' :: mark :: p) ps
    else do
      let c ← charOfDigits (p.take width)
      decodeMarks mark width false (done ++ c :: p.drop width) ps

/-- Text with the characters that a mark gives. -/
def decodeHex (mark : Char) (width : Nat) (cs : List Char) : Except ReadFault (List Char) :=
  match splitPairs '\\' mark cs with
  | [] => .ok []
  | p :: ps => decodeMarks mark width (Layout.isEscaped p.reverse) p ps

/-- Text with the characters that one-character escapes give. -/
def decodeShort : List Char → Option (List Char)
  | '\\' :: '\\' :: cs => (decodeShort cs).map ('\\' :: ·)
  | '\\' :: c :: cs =>
    if c = 'u' || c = 'U' then (decodeShort cs).map (fun ds => '\\' :: c :: ds)
    else match escapes.lookup c with
      | some d => (decodeShort cs).map (d :: ·)
      | none => none
  | c :: cs => (decodeShort cs).map (c :: ·)
  | [] => some []

/-- Text between its quotes, of which there may be three at each end. -/
def unwrap (quote : Char) (cs : List Char) : List Char :=
  let inside (n : Nat) (ds : List Char) : List Char := (ds.drop n).take (ds.length - 2 * n)
  match cs with
  | _ :: q :: r :: _ => if q = quote && q = r then inside 1 (inside 2 cs) else inside 1 cs
  | _ => inside 1 cs

/-- Text with its escapes read. -/
def decodeEscapes (cs : List Char) : Except ReadFault (List Char) := do
  if !escapesKnown cs then throw .malformed
  match decodeShort (← decodeHex 'U' 8 (← decodeHex 'u' 4 cs)) with
  | some ds => return ds
  | none => throw .malformed

/-- Text that starts with a quote. -/
def readText (quote : Char) (cs : List Char) : Except ReadFault Value := do
  let between := splitOn quote (cs.drop 1)
  let (triple, rest) := match between with
    | [] :: [] :: rest => (true, rest)
    | rest => (false, rest)
  if !closesAtEnd triple false 0 rest then throw .malformed
  let decoded ← if quote = '"' then decodeEscapes cs else pure cs
  return .text (String.ofList (unwrap quote decoded))

/-! ## 2. Numbers -/

/-- Tells whether a number has neither zeros in front nor stray underscores. -/
def isStrictNumber (s : List Char) : Bool :=
  let cs := trimWhile isBlank s
  let leadingZero : Bool := match cs with
    | '0' :: c :: _ => !List.contains ['.', 'o', 'b', 'x'] c
    | _ => false
  let beside (a b : Char) (ds : List Char) : Bool := (ds.zip ds.tail).contains (a, b)
  let unsigned := match cs with
    | '+' :: rest => rest
    | '-' :: rest => rest
    | _ => cs
  let signedZero : Bool := match unsigned with
    | '0' :: c :: _ => unsigned.length ≠ cs.length && c ≠ '.'
    | _ => false
  !cs.isEmpty && cs.head? ≠ some '_' && cs.getLast? ≠ some '_' && !beside '_' '.' cs
    && !beside '.' '_' cs
    && (cs.length = 1 || !leadingZero && !signedZero && !beside '_' '_' unsigned)

/-- Digit of a base. -/
def digitIn? (base : Nat) (c : Char) : Option Nat :=
  match hexValue? c.toLower with
  | some d => if d < base then some d else none
  | none => none

/-- Whole number in a base. -/
def wholeIn? (base : Nat) (cs : List Char) : Option Nat :=
  if cs.isEmpty then none
  else cs.foldl (fun n? c => do return base * (← n?) + (← digitIn? base c)) (some 0)

/-- Whole number with its base, ten when none is given; then zeros in front are refused. -/
def wholeNumber? (s : List Char) : Option Int :=
  let (negative, cs) := takeSign (toAsciiDigits (trimWhile isNumeralBlank s))
  let magnitude : Option Nat := match cs with
    | '0' :: c :: rest =>
      if c = 'x' || c = 'X' then wholeIn? 16 rest
      else if c = 'o' || c = 'O' then wholeIn? 8 rest
      else if c = 'b' || c = 'B' then wholeIn? 2 rest
      else if cs.all (· = '0') then some 0
      else none
    | _ => if maxDigits < cs.length then none else wholeIn? 10 cs
  magnitude.map fun n => if negative then -(n : Int) else n

/-- Double of the other sign; zero stays positive. -/
def opposite : Binary64 → Binary64
  | .nan => .nan
  | .infinite negative => .infinite !negative
  | .finite negative m q => .finite (!negative && m ≠ 0) m q

/-- Number of a text; `strict` tells whether it was found without zeros in front. -/
def readNumber (strict : Bool) (s : List Char) : Except ReadFault Value :=
  let (negative, signless) := takeSign s
  let cs := signless.filter (· ≠ '_')
  let hasPoint := cs.contains '.'
  let hasExponent := !cs.contains 'x' && (cs.contains 'e' || cs.contains 'E')
  let word := toLower (String.ofList cs)
  let float (ok : Bool) : Option Value :=
    if ok then (readFloat? (String.ofList cs)).map fun x => .float (if negative then opposite x else x)
    else none
  let value? : Option Value :=
    if hasPoint || hasExponent then
      float ((!hasPoint || (cs.dropWhile (· ≠ '.')).length ≠ 1)
        && (cs.head?.map Char.isDigit).getD false)
    else if word = "inf" || word = "nan" then float true
    else (wholeNumber? cs).map fun n => .int (if negative then -n else n)
  match value? with
  | some v => if strict then .ok v else .error .malformed
  | none => .error .malformed

end ClientGen.Toml
