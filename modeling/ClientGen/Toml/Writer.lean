import ClientGen.Fault
import ClientGen.Text.Quoted
import ClientGen.Toml.Name
import ClientGen.Value

/-!
# Writing configuration texts

A record is written as one line an entry, then a headed section for each record inside
it, level by level. This file fixes

* texts: quoted and escaped, where escapes of two hexadecimal digits are joined to what
  stands before them by a rule of their own;
* the other values, and names;
* entries and sections: records become sections, lists of records a headed row each.
-/
namespace ClientGen.Toml

open ClientGen.Text ClientGen.Number

/-! ## 1. Texts -/

/-- Pieces of a text around the marks of two-digit escapes. -/
def splitMarks : List Char → List (List Char)
  | [] => [[]]
  | '\\' :: 'x' :: cs => [] :: splitMarks cs
  | c :: cs =>
    match splitMarks cs with
    | [] => [[c]]
    | p :: ps => (c :: p) :: ps

/-- Text with each pair of backslashes made one. -/
def halveBackslashes : List Char → List Char
  | '\\' :: '\\' :: cs => '\\' :: halveBackslashes cs
  | c :: cs => c :: halveBackslashes cs
  | [] => []

/-- Number of backslashes at the end of a text. -/
def backslashesAtEnd (cs : List Char) : Nat := (cs.reverse.takeWhile (· = '\\')).length

/-- Mark that follows a piece: a plain `x`, unless the backslashes at the piece's end make
it a four-digit escape. The piece's first character does not count. -/
def markAfter (cs : List Char) : List Char :=
  let n := backslashesAtEnd cs
  if n = 0 || min n (cs.length - 1) % 2 = 1 then ['x'] else ['u', '0', '0']

/-- Two neighbouring pieces in one; an empty piece has no end to look at. -/
def joinTwo (a b : List Char) : Option (List Char) :=
  let h := halveBackslashes a
  if h.isEmpty then none else some (h ++ markAfter h ++ b)

/-- Piece joined to all that follow it. -/
def joinFrom (a : List Char) : List (List Char) → Option (List Char)
  | [] => some a
  | p :: ps =>
    match joinTwo a p with
    | some b => joinFrom b ps
    | none => none

/-- All pieces in one. An empty piece in front is left out, and then two more are needed. -/
def joinPieces : List (List Char) → Option (List Char)
  | [] => some []
  | [p] => some p
  | [] :: [_] => none
  | [] :: p :: q :: ps =>
    match joinTwo p q with
    | some b => joinFrom b ps
    | none => none
  | p :: ps => joinFrom p ps

/-- Quoted form of a text, where it has one. -/
def quotedText (s : String) : Except Fault String :=
  match joinPieces (splitMarks (s.toList.flatMap (quoteChar '"'))) with
  | some cs => .ok ("\"" ++ String.ofList cs ++ "\"")
  | none => .error .outOfRange

/-! ## 2. Values and names -/

/-- Exponent without the zero in front. -/
def shortenExponent : List Char → List Char
  | 'e' :: '-' :: '0' :: cs => 'e' :: '-' :: cs
  | c :: cs => c :: shortenExponent cs
  | [] => []

/-- Text of a double. -/
def floatText (x : Binary64) : String := String.ofList (shortenExponent x.text.toList)

/-- Text of a moment; universal time has a letter. -/
def momentText (m : Moment) : String :=
  match m with
  | .instant d t (some 0) => d.text ++ "T" ++ t.text ++ "Z"
  | m => m.textWith "T"

mutual

/-- Text of a value that is no record; of a record inside a list only the names are
written. -/
def valueText : Value → Except Fault String
  | .null => quotedText "None"
  | .bool b => .ok (if b then "true" else "false")
  | .int n => if Value.hasLongInteger (.int n) then .error .longInteger else .ok (integerText n)
  | .float x => .ok (floatText x)
  | .text s => quotedText s
  | .moment m => if m.hasText then .ok (momentText m) else .error .farMoment
  | .list items => do return "[" ++ (← itemTexts items) ++ "]"
  | .record entries => do
    let names ← (Table.names entries).mapM quotedText
    return "[" ++ join "" (names.map fun s => " " ++ s ++ ",") ++ "]"
  | .loop _ _ => .error .wrongKind

/-- Texts of the items of a list. -/
def itemTexts : List Value → Except Fault String
  | [] => .ok ""
  | v :: vs => do return " " ++ (← valueText v) ++ "," ++ (← itemTexts vs)

end

/-- Name as written. -/
def nameText (s : String) : Except Fault String := if isBareName s then .ok s else quotedText s

/-! ## 3. Sections -/

/-- Tells whether a value is a record. -/
def isRecord : Value → Bool
  | .record _ => true
  | _ => false

/-- A section: where it lies, its lines, and whether it has sections inside. -/
structure Section where
  path : String
  lines : Except Fault String
  isBranch : Bool

/-- What a record is written as: the lines of its entries, behind them those of its lists of
records, and the sections of the records inside it, level by level. A fault belongs to the
lines where it lies: of two faults the one on the upper level counts. -/
structure Parts where
  own : Except Fault (String × String) := .ok ("", "")
  levels : List (List Section) := []

/-- Two lists of levels, level by level. -/
def joinLevels : List (List Section) → List (List Section) → List (List Section)
  | [], bs => bs
  | as, [] => as
  | a :: as, b :: bs => (a ++ b) :: joinLevels as bs

namespace Parts

/-- All lines of a record itself: those of lists of records come last. -/
def ownLines (p : Parts) : Except Fault String := do
  let (lines, tables) ← p.own
  return lines ++ tables

/-- Parts of some entries followed by those of others. -/
def append (p q : Parts) : Parts where
  own := do
    let (lines, tables) ← p.own
    let (linesAfter, tablesAfter) ← q.own
    return (lines ++ linesAfter, tables ++ tablesAfter)
  levels := joinLevels p.levels q.levels

/-- Levels of a record that is a section itself. -/
def asSection (p : Parts) (path : String) : List (List Section) :=
  [⟨path, p.ownLines, !p.levels.isEmpty⟩] :: p.levels

/-- Text of a record in a list of records. Lines that begin with a header of their own keep
away from the item's header, and sections without lines have none. -/
def asItem (p : Parts) (path : String) : Except Fault String := do
  let own ← p.ownLines
  let isHeaded := startsWith own "["
  let inner ← p.levels.flatten.mapM fun s => do
    let lines ← s.lines
    return if lines = "" then "" else "[" ++ s.path ++ "]\n" ++ lines
  return "[[" ++ path ++ "]]\n" ++ (if isHeaded then "" else own) ++ "\n"
    ++ (if isHeaded then own else "") ++ join "" inner

end Parts

/-- Path with a name below it. -/
def pathBelow (path name : String) : String := if path = "" then name else path ++ "." ++ name

/-- Value that stands among records but is none: an empty text or list counts as an empty
record, and the first part of any other must have a name before the value is refused. -/
def asRecord (v : Value) : Except Fault Unit := do
  let first : Option String ← match v with
    | .text s => pure (s.toList.head?.map String.singleton)
    | .list [] => pure none
    | .list (u :: _) => some <$> u.shown
    | _ => throw .wrongKind
  if let some name := first then
    let _ ← nameText name
    throw .wrongKind

mutual

/-- Parts of entries; `path` is where their record lies. -/
def partsOf (path : String) : List (String × Value) → Parts
  | [] => {}
  | (k, v) :: rest =>
    match nameText k with
    | .error f => { own := .error f }
    | .ok name => (entryParts path name v).append (partsOf path rest)

/-- Parts of one entry; nothing has none. -/
def entryParts (path name : String) : Value → Parts
  | .null => {}
  | .record entries =>
    let below := pathBelow path name
    { levels := (partsOf below entries).asSection below }
  | .list items =>
    if items.any isRecord then
      { own := (itemTables (pathBelow path name) items).map fun tables => ("", tables) }
    else { own := (valueText (.list items)).map fun text => (name ++ " = " ++ text ++ "\n", "") }
  | v => { own := (valueText v).map fun text => (name ++ " = " ++ text ++ "\n", "") }

/-- Texts of the items of a list of records. -/
def itemTables (path : String) : List Value → Except Fault String
  | [] => .ok ""
  | .record entries :: rest => do
    return (← (partsOf path entries).asItem path) ++ (← itemTables path rest)
  | v :: rest => do
    asRecord v
    return (← Parts.asItem {} path) ++ (← itemTables path rest)

end

theorem partsOf_cons {k name : String} (hk : nameText k = .ok name) (path : String) (v : Value)
    (rest : Record) :
    partsOf path ((k, v) :: rest) = (entryParts path name v).append (partsOf path rest) := by
  have h : partsOf path ((k, v) :: rest) =
      match nameText k with
      | .error f => { own := .error f }
      | .ok name => (entryParts path name v).append (partsOf path rest) := rfl
  rw [h, hk]

/-- Text with a section after it: an empty line lies between them. A section of nothing but
sections is left out. -/
def addSection (text : String) (s : Section) : Except Fault String := do
  let lines ← s.lines
  if lines = "" && s.isBranch then return text
  else return text ++ (if text = "" || endsWith text "\n\n" then "" else "\n")
    ++ "[" ++ s.path ++ "]\n" ++ lines

/-- Text of a record. -/
def write (r : Record) : Except Fault String := do
  let parts := partsOf "" r
  parts.levels.flatten.foldlM addSection (← parts.ownLines)

end ClientGen.Toml
