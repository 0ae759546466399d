import ClientGen.Text.Alphanumeric
import ClientGen.Text.Blank
import ClientGen.Text.Split

/-!
# Layout of configuration texts

Before its entries are read, a configuration text is laid out in lines: comments become
spaces, lists that run over several lines become one, and what stands before each equals
sign is checked to be a name. A text whose quotes do not close is refused. One pass over
the characters does all this; it looks ahead at one character, and back at the quotes and
backslashes just passed. Whoever looks back from the start goes on at the end.
-/
namespace ClientGen.Toml

open ClientGen.Text

/-- Why a configuration text is refused: it is malformed, a position or a part of a value was
asked for that the value does not have, a value is of the wrong kind, the value of a name
was never set, a number is too large, or values lie too deep inside each other. -/
inductive ReadFault where
  | malformed
  | outside
  | unfit
  | noSuchPart
  | unset
  | tooLarge
  | tooDeep
  deriving DecidableEq, Repr

/-! ## 1. State of the pass -/

/-- Where the pass stands with respect to a name: none is open, inside, or behind it but
before the equals sign. -/
inductive NameState where
  | none | inside | behind
  deriving DecidableEq, Repr

/-- Header that is open. -/
inductive HeaderState where
  | none | table | tableList
  deriving DecidableEq, Repr

/-- State of the pass; what is laid out so far is held in reverse. -/
structure Layout where
  laid : List Char := []
  name : NameState := .none
  dotted : Bool := false
  quote : Option Char := none
  multiline : Bool := false
  header : HeaderState := .none
  depth : Int := 0
  lineStart : Bool := true
  comment : Bool := false

namespace Layout

/-- State with a character laid out. -/
def lay (s : Layout) (c : Char) : Layout := { s with laid := c :: s.laid }

/-- Characters that a name may have. -/
def isNameChar (c : Char) : Bool := isAlphanumeric c || c = '_' || c = '-'

/-- Tells whether an odd number of backslashes was laid out last. -/
def isEscaped (laid : List Char) : Bool := (laid.takeWhile (· = '\\')).length % 2 = 1

/-! ## 2. Names -/

/-- Goes back into a name when another part of it follows. -/
def resume (s : Layout) (next : Option Char) : Except ReadFault Layout :=
  match next with
  | none => .error .outside
  | some n => .ok (if !isBlank n && n ≠ '.' then { s with name := .inside } else s)

/-- Step at the end of a name, where only an equals sign may stand. Nothing is returned
when the character is settled. -/
def equalsSign (s : Layout) (c : Char) : Except ReadFault (Layout × Bool) :=
  if c = '=' then .ok ({ s with name := .none, dotted := false }, true) else .error .malformed

/-- Step in or behind a name; the flag tells whether the character has more to say. -/
def nameStep (s : Layout) (c : Char) (next : Option Char) : Except ReadFault (Layout × Bool) :=
  if c = '\n' then .error .malformed
  else if s.quote.isSome then
    .ok (if s.quote = some c && !isEscaped s.laid then { s with name := .behind, quote := none } else s,
      false)
  else match s.name with
    | .inside =>
      if isBlank c then .ok ({ s with name := .behind }, false)
      else if c = '.' then .ok ({ s with dotted := true }, false)
      else if isNameChar c then .ok (s, false)
      else if s.dotted && s.laid.head? = some '.' && (c = '"' || c = '\'') then
        .ok ({ s with quote := some c }, false)
      else s.equalsSign c
    | _ =>
      if isBlank c then
        if s.dotted then (s.resume next).map (·, false) else .ok (s, false)
      else if c = '.' then ({ s with dotted := true }.resume next).map (·, false)
      else s.equalsSign c

/-! ## 3. Quotes and brackets -/

/-- Opens or closes a text; three quotes in a row begin or end one of several lines. -/
def toggle (s : Layout) (c : Char) (triple : Bool) : Layout :=
  if triple then
    { s with multiline := !s.multiline, quote := if s.multiline then none else some c }
  else { s with quote := if s.quote.isSome then none else some c }

/-- Characters that are met from a quote backwards. Where nothing but quotes and backslashes
was passed, the look goes on at the end of the text and comes back to the quote. -/
def behind (s : Layout) (c : Char) (rest : List Char) : List Char :=
  if s.laid.all fun d => d = c || d = '\\' then s.laid ++ rest.reverse ++ c :: s.laid else s.laid

/-- Step at a quote. A backslash before a double quote keeps the text open. -/
def quoteStep (s : Layout) (c : Char) (rest : List Char) : Layout :=
  if c = '\'' && s.quote ≠ some '"' then
    s.toggle c (2 ≤ ((s.behind c rest).takeWhile (· = c)).length)
  else if c = '"' && s.quote ≠ some '\'' then
    let before := s.behind c rest
    let run := min 2 (before.takeWhile (· = c)).length
    if run ≠ 1 && isEscaped (before.drop run) then s else s.toggle c (run = 2)
  else s

/-- Step at a bracket outside texts. -/
def bracketStep (s : Layout) (c : Char) (next : Option Char) : Layout :=
  if s.quote.isSome then s
  else if c = '[' && s.header = .none then
    if s.lineStart then { s with header := if next = some '[' then .tableList else .table }
    else { s with depth := s.depth + 1 }
  else if c = ']' then
    match s.header with
    | .table => { s with header := .none }
    | .tableList => if s.laid.head? = some ']' then { s with header := .none } else s
    | .none => { s with depth := s.depth - 1 }
  else s

/-! ## 4. The pass -/

/-- Line end laid out inside a text of several lines. After two quotes it becomes a third, and
the quote before them a space, so that a line end right behind an opening does not count. -/
def layLineEnd (s : Layout) : Layout :=
  match s.laid with
  | a :: b :: before =>
    if (a = '\'' || a = '"') && b = a then
      let before := match before with
        | c :: cs => (if c = a then ' ' else c) :: cs
        | [] => []
      { s with laid := a :: a :: b :: before }
    else s.lay '\n'
  | _ => s.lay '\n'

/-- Step at the end of a line. -/
def lineEnd (s : Layout) : Except ReadFault Layout :=
  let s := { s with comment := false }
  if s.multiline then .ok s.layLineEnd
  else if s.quote.isSome then .error .malformed
  else if s.depth ≠ 0 then .ok (s.lay ' ')
  else .ok ({ s with lineStart := true }.lay '\n')

/-- Step at the first character of a line that is no space; it begins a name unless it
begins a header. -/
def beginLine (s : Layout) (c : Char) : Except ReadFault Layout :=
  if !s.lineStart || c = ' ' || c = '\t' then .ok s
  else if s.header ≠ .none then .ok { s with lineStart := false }
  else if c = '=' then .error .malformed
  else .ok { s with lineStart := false, name := .inside }

/-- Step at a character outside names. -/
def openStep (s : Layout) (c : Char) (rest : List Char) : Except ReadFault Layout :=
  if c = '\n' then s.lineEnd
  else
    let s := s.quoteStep c rest
    if c = '#' && s.quote.isNone && s.header = .none then .ok ({ s with comment := true }.lay ' ')
    else do return (← (s.bracketStep c rest.head?).beginLine c).lay c

/-- One step of the pass; `rest` is what comes after the character. -/
def step (s : Layout) (c : Char) (rest : List Char) : Except ReadFault Layout :=
  if s.comment && c ≠ '\n' then .ok (s.lay ' ')
  else if s.name = .none then s.openStep c rest
  else do
    let (s, more) ← s.nameStep c rest.head?
    if more then s.openStep c rest else return s.lay c

/-- The whole pass. -/
def run (s : Layout) : List Char → Except ReadFault Layout
  | [] => if s.name ≠ .none || s.quote.isSome then .error .malformed else .ok s
  | c :: cs => do run (← s.step c cs) cs

end Layout

/-- Lines of a configuration text, without comments. -/
def layOut (s : String) : Except ReadFault (List String) := do
  return lines (String.ofList (← Layout.run {} s.toList).laid.reverse)

end ClientGen.Toml
