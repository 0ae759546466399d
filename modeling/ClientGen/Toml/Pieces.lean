import ClientGen.Toml.Layout

/-!
# Pieces of configuration lines

Lists, records on one line, entries and headers are cut at their marks, but a mark inside
quotes does not count. This file fixes

* pieces between quotes, and how many marks stand inside quotes;
* items of lists, whose commas may stand inside texts, lists or records;
* entries of records on one line.
-/
namespace ClientGen.Toml

open ClientGen.Text

/-! ## 1. Pieces between quotes -/

/-- Tells whether a character is a quote. -/
def isQuote (c : Char) : Bool := c = '"' || c = '\''

/-- Pieces between single quotes that begin before the first double one. As long as the last
single quote is open, double quotes are part of its text. The pieces between double quotes
that are left come second. -/
def pairSingles (singles : List (List Char)) : List (List Char) → List (List Char) × List (List Char)
  | [] => (singles, [])
  | d :: ds =>
    if singles.length % 2 = 0 then
      let last := singles.getLastD [] ++ '"' :: d
      pairSingles (singles.dropLast ++ splitOn '\'' last) ds
    else (singles, d :: ds)

/-- Pieces between quotes: outside, inside, outside and so on. Of the pieces between double
quotes only the first is cut at single ones. -/
def quotePieces (line : List Char) : List (List Char) :=
  let cutFirst (ps : List (List Char)) : List (List Char) := match ps with
    | p :: ps => splitOn '\'' p ++ ps
    | [] => []
  match splitOn '"' line with
  | [] => []
  | d :: ds =>
    if !ds.isEmpty && d.contains '\'' then
      let (singles, rest) := pairSingles (splitOn '\'' d) ds
      singles ++ cutFirst rest
    else cutFirst (d :: ds)

/-- Number of marks that come before the first one outside quotes; `cut` cuts at marks. -/
def marksInQuotes (cut : List Char → List (List Char)) (inside : Bool) : List (List Char) → Nat
  | [] => 0
  | p :: ps =>
    let marks := (cut p).length - 1
    if !inside && 0 < marks then 0 else marks + marksInQuotes cut (!inside) ps

/-- Pieces of which those from a number on are joined again. -/
def atMost (n : Nat) (mark : List Char) (pieces : List (List Char)) : List (List Char) :=
  if pieces.length ≤ n + 1 then pieces else pieces.take n ++ [mark.intercalate (pieces.drop n)]

/-! ## 2. Items of lists -/

/-- Inside of a text without its first and last character. -/
def between (cs : List Char) : List Char := (cs.drop 1).dropLast

/-- Items of a list that holds lists: commas inside brackets do not separate. -/
def splitItems (depth : Int) : List Char → List (List Char)
  | [] => [[]]
  | c :: cs =>
    if c = ',' && depth = 0 then [] :: splitItems depth cs
    else
      let depth := if c = '[' then depth + 1 else if c = ']' then depth - 1 else depth
      match splitItems depth cs with
      | [] => [[c]]
      | p :: ps => (c :: p) :: ps

/-- Tells whether a text starts and ends with one character that is not escaped. -/
def isBounded (cs : List Char) : Bool :=
  match cs, cs.reverse with
  | first :: _, last :: before => first = last && !Layout.isEscaped before.dropLast
  | _, _ => true

/-- Tells whether a text begins with three quotes and does not end with two of them. -/
def isOpenTriple (cs : List Char) : Bool :=
  match cs, cs.reverse with
  | a :: b :: c :: _, _ :: y :: z :: _ => a = b && b = c && y ≠ a && z ≠ a
  | _, _ => false

/-- Items of a list of texts: pieces are joined until a text is closed. The last item need
not be closed unless pieces were joined to it. -/
def joinBounded (joined : Bool) (item : List Char) :
    List (List Char) → Except ReadFault (List (List Char))
  | [] =>
    let text := trimWhile isBlank item
    if joined && (!isBounded text || isOpenTriple text) then .error .outside else .ok [item]
  | p :: ps =>
    let text := trimWhile isBlank item
    if !isBounded text || isOpenTriple text then joinBounded true (item ++ ',' :: p) ps
    else do return item :: (← joinBounded false p ps)

/-- State of cutting a list of records: what was passed and the record so far, both in
reverse, how many braces are open, and whether a text is. -/
structure Braces where
  passed : List Char
  record : List Char
  depth : Nat
  inText : Bool := false

/-- State after a quote. Inside a text every backslash before it counts as a change. -/
def Braces.atQuote (s : Braces) : Braces :=
  let turns := if s.inText then (s.passed.takeWhile (· = '\\')).length + 1 else 1
  { s with inText := if turns % 2 = 1 then !s.inText else s.inText }

/-- Records of a list of records, from a place inside one on. Behind a record one character
is passed over, and then all up to a brace; nothing that is open at the end counts. -/
def splitRecords : Option Braces → List Char → List (List Char)
  | _, [] => []
  | none, c :: cs =>
    if c = '\x7b' then splitRecords (some ⟨[c], [c], 1, false⟩) cs else splitRecords none cs
  | some s, c :: cs =>
    let s := if c = '"' || c = '\'' then s.atQuote else s
    let s := if !s.inText && c = '\x7b' then { s with depth := s.depth + 1 } else s
    let on : Braces := { s with passed := c :: s.passed, record := c :: s.record }
    if s.inText || c ≠ '\x7d' then splitRecords (some on) cs
    else if 1 < s.depth then splitRecords (some { on with depth := s.depth - 1 }) cs
    else on.record.reverse :: splitRecords none (cs.drop 1)
termination_by _ cs => cs.length
decreasing_by all_goals (simp_wf; try omega)

/-- Records of a list between its brackets; the first character is not looked at, but for
being a brace. -/
def recordsOf (inner : List Char) : List (List Char) :=
  match inner with
  | c :: cs => splitRecords (some ⟨[c, '['], [c], if c = '\x7b' then 1 else 0, false⟩) cs
  | [] => []

/-- Items of a list between its brackets. -/
def itemsOf (inner : List Char) : Except ReadFault (List (List Char)) :=
  if inner.contains '[' && allBlank (inner.takeWhile (· ≠ '[')) then .ok (splitItems 0 inner)
  else
    let first? := (trimWhile isBlank inner).head?
    if first? = some '\x7b' then .ok (recordsOf inner)
    else match splitOn ',' inner with
      | p :: ps => if first?.any isQuote then joinBounded false p ps else .ok (p :: ps)
      | [] => .ok []

/-! ## 3. Entries of records on one line -/

/-- Tells whether the value of an entry inside a record is complete. -/
def isComplete (value : List Char) : Bool :=
  match value.head?, value.getLast? with
  | some a, some z =>
    (a = z && isQuote a) || a = '-' || a.isDigit || value = "true".toList
      || value = "false".toList || (a = '[' && z = ']') || (a = '\x7b' && z = '\x7d')
  | _, _ => false

/-- Value of an entry inside a record. -/
def entryValue (entry : List Char) : Except ReadFault (List Char) :=
  let value := trimWhile isBlank ((entry.dropWhile (· ≠ '=')).drop 1)
  if !entry.contains '=' then .error .malformed
  else if value.isEmpty then .error .outside
  else .ok value

/-- Entries of a record on one line: pieces are joined until a value is complete. -/
def joinComplete (entry : List Char) : List (List Char) → Except ReadFault (List (List Char))
  | [] => do if isComplete (← entryValue entry) then return [entry] else throw .malformed
  | p :: ps => do
    if isComplete (← entryValue entry) then return entry :: (← joinComplete p ps)
    else joinComplete (entry ++ ',' :: p) ps

/-- Entries of a record between its braces. -/
def entriesOf (inner : List Char) : Except ReadFault (List (List Char)) :=
  match splitOn ',' inner with
  | [] => .ok []
  | p :: ps => if ps.isEmpty && allBlank p then .ok [] else joinComplete p ps

end ClientGen.Toml
