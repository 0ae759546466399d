import ClientGen.Text.Quoted

/-!
# Sets of characters

A text is written with a set of characters: that of ASCII, or the whole one, which has every
character but no half of a pair. A text with other characters is not written, and its first
row of them is what is wrong with it. This file fixes

* the sets and the characters in them;
* the first row of a text that a set has not.
-/
namespace ClientGen.Text

/-- Sets of characters that texts are written with. -/
inductive Charset where
  | ascii
  | whole
  deriving DecidableEq, Repr

/-- Tells whether a set has a character. -/
def Charset.has : Charset → Char → Bool
  | .ascii, c => c.toNat < 0x80
  | .whole, c => !isStandIn c

/-- Name of a set. -/
def Charset.name : Charset → String
  | .ascii => "ascii"
  | .whole => "utf-8"

/-- What is said of characters that a set has not. -/
def Charset.limit : Charset → String
  | .ascii => "ordinal not in range(128)"
  | .whole => "surrogates not allowed"

/-- Tells whether a text has characters of ASCII only. -/
def isAscii (s : String) : Bool := s.toList.all Charset.ascii.has

/-- A row of characters that a set has not, with its position in a text. -/
structure ForeignRow where
  charset : Charset
  characters : List Char
  position : Nat
  deriving DecidableEq, Repr

/-- First row of characters of a text that a set has not. -/
def Charset.foreignRow? (charset : Charset) (s : String) : Option ForeignRow :=
  let before := s.toList.takeWhile charset.has
  let row := (s.toList.drop before.length).takeWhile fun c => !charset.has c
  if row = [] then none else some ⟨charset, row, before.length⟩

/-- What is said of a text with such a row. -/
def ForeignRow.message (r : ForeignRow) : String :=
  let what := match r.characters with
    | [c] => "character '" ++ String.ofList (hexEscape c) ++ "' in position " ++ toString r.position
    | cs => "characters in position " ++ toString r.position ++ "-"
        ++ toString (r.position + cs.length - 1)
  "'" ++ r.charset.name ++ "' codec can't encode " ++ what ++ ": " ++ r.charset.limit

end ClientGen.Text
