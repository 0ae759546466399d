import ClientGen.Toml.Entry
import ClientGen.Toml.Name

/-!
# Reading configuration texts

A configuration text gives a record: entries one a line, and headers that open a record
inside it for the entries below them. This file fixes

* values: texts, truth values, numbers, days and times, lists, and records on one line;
* entries: no name is written twice;
* headers, which open a record or add one to a list of records;
* lines, and the whole text.
-/
namespace ClientGen.Toml

open ClientGen.Text ClientGen.Number

/-! ## 1. Values and entries -/

/-- Kind of a value; the items of a list are of one kind. -/
inductive Kind where
  | text | int | float | bool | list | record | day | clock
  deriving DecidableEq, Repr

/-- Kind of a value. -/
def Kind.of : Value → Kind
  | .text _ => .text
  | .int _ => .int
  | .float _ => .float
  | .bool _ => .bool
  | .list _ => .list
  | .moment (.clock _) => .clock
  | .moment _ => .day
  | _ => .record

/-- Value changed in a record that a row of names leads to; those that are missing are
made. -/
def changeIn (change : Value → Except ReadFault (Value × α)) :
    List String → Value → Except ReadFault (Value × α)
  | [], v => change v
  | k :: ks, .record r => do
    let (inner, a) ← changeIn change ks ((Table.get? r k).getD (.record []))
    return (.record (Table.put r k inner), a)
  | _ :: _, _ => .error .unfit

/-- Entries of a record that has none of a name. -/
def entriesWithout (name : String) : Value → Except ReadFault Record
  | .record r => if (Table.get? r name).isSome then .error .malformed else .ok r
  | _ => .error .malformed

/-- Number, day or time that a text writes. -/
def readPlain (strict : Bool) (cs : List Char) : Except ReadFault Value := do
  if let some (hour, minute, second, microsecond) := timeNumbers? cs then
    match ClockTime.ofNumbers? hour minute second microsecond with
    | some t => return .moment (.clock t)
    | none => throw .malformed
  match ← moment? cs with
  | some m => return .moment m
  | none => readNumber strict cs

/-- How deep values may lie inside each other; a list counts twice and a record three times. -/
def maxDepth : Nat := 983

mutual

/-- Value of a text, of some depth at most. Each item of a list and each entry of a record
takes a step, and each value inside another one at most three more, but it is two characters
shorter; so four times as many steps as there are characters suffice. -/
def readValue : Nat → Nat → Bool → List Char → Except ReadFault Value
  | 0, _, _, _ => .error .malformed
  | fuel + 1, depth, strict, cs =>
    match cs with
    | [] => .error .malformed
    | '"' :: _ => readText '"' cs
    | '\'' :: _ => readText '\'' cs
    | '[' :: rest =>
      match depth with
      | depth + 2 => do return .list (← readItems fuel depth none (← itemsOf rest.dropLast))
      | _ => .error .tooDeep
    | '\x7b' :: rest =>
      match depth with
      | depth + 3 => do readEntries fuel depth (.record []) (← entriesOf rest.dropLast)
      | _ => .error .tooDeep
    | _ =>
      if cs = "true".toList then .ok (.bool true)
      else if cs = "false".toList then .ok (.bool false)
      else readPlain strict cs

/-- Values of items, which are of one kind; empty items are left out. -/
def readItems : Nat → Nat → Option Kind → List (List Char) → Except ReadFault (List Value)
  | 0, _, _, _ => .error .malformed
  | _, _, _, [] => .ok []
  | fuel + 1, depth, kind, p :: ps =>
    let cs := trimWhile isBlank p
    if cs.isEmpty then readItems fuel depth kind ps
    else do
      let v ← readValue fuel depth true cs
      if kind.any (· ≠ Kind.of v) then throw .malformed
      return v :: (← readItems fuel depth (some (Kind.of v)) ps)

/-- Value with entries added, up to one whose value goes on over more lines. -/
def readEntries : Nat → Nat → Value → List (List Char) → Except ReadFault Value
  | 0, _, _, _ => .error .malformed
  | _, _, v, [] => .ok v
  | fuel + 1, depth, v, line :: rest => do
    let (v, pending) ← readEntry fuel depth v line
    if pending.isSome then return v
    readEntries fuel depth v rest

/-- Value with an entry added, or the entry if its value goes on over more lines. -/
def readEntry : Nat → Nat → Value → List Char → Except ReadFault (Value × Option Pending)
  | 0, _, _, _ => .error .malformed
  | fuel + 1, depth, v, line => do
    let raw ← rawEntry line
    let (path, name) ← nameParts raw.name
    changeIn (fun level => do
      if ← goesOn raw.value then
        let _ ← entriesWithout name level
        if name = "" then throw .unset
        return (level, some (Pending.ofText name raw.value))
      let value ← readValue fuel depth raw.strict raw.value
      return (.record (Table.put (← entriesWithout name level) name value), none)) path v

end

/-- Steps that suffice to read a text. -/
def stepsFor (cs : List Char) : Nat := 4 * cs.length + 8

/-! ## 2. Headers -/

/-- Step from a value into a part of it. -/
inductive Step where
  | entry (name : String)
  | lastItem
  deriving DecidableEq, Repr

/-- Value with a part changed that some steps lead to. -/
def changeAt (change : Value → Except ReadFault (Value × α)) :
    List Step → Value → Except ReadFault (Value × α)
  | [], v => change v
  | .entry k :: steps, .record r =>
    match Table.get? r k with
    | some inner => do
      let (inner, a) ← changeAt change steps inner
      return (.record (Table.put r k inner), a)
    | none => .error .unfit
  | .lastItem :: steps, .list items =>
    match items.getLast? with
    | some inner => do
      let (inner, a) ← changeAt change steps inner
      return (.list (items.dropLast ++ [inner]), a)
    | none => .error .outside
  | _ :: _, _ => .error .unfit

/-- Name that a quote opens and the parts of a header behind it: the name takes parts, which
points divided, until a quote like the first ends it. -/
def closeName (start : List Char) (parts : List (List Char)) :
    Option (List Char × List (List Char)) :=
  let text := trimWhile isBlank start
  if 1 < text.length && text.head? = text.getLast? then some (between text, parts)
  else
    match parts with
    | [] => none
    | p :: ps => closeName (start ++ '.' :: p) ps

/-- Closing a name leaves no more parts than there were. -/
theorem length_closeName {start : List Char} {parts : List (List Char)}
    {r : List Char × List (List Char)} (h : closeName start parts = some r) :
    r.2.length ≤ parts.length := by
  induction parts generalizing start with
  | nil =>
    unfold closeName at h
    dsimp only at h
    split at h
    · injection h with h
      subst h
      exact Nat.le_refl _
    · contradiction
  | cons p ps ih =>
    unfold closeName at h
    dsimp only at h
    split at h
    · injection h with h
      subst h
      exact Nat.le_refl _
    · exact Nat.le_succ_of_le (ih h)

/-- Names of a header from its parts between points. -/
def headerNames (parts : List (List Char)) : Except ReadFault (List String) :=
  match parts with
  | [] => .ok []
  | p :: ps =>
    let cs := trimWhile isBlank p
    if cs.head?.any isQuote then
      match _closed : closeName cs ps with
      | some (name, rest) => do return String.ofList name :: (← headerNames rest)
      | none => .error .malformed
    else
      let name := String.ofList cs
      if isBareName name then do return name :: (← headerNames ps) else .error .malformed
termination_by parts.length
decreasing_by
  · exact Nat.lt_succ_of_le (length_closeName _closed)
  · exact Nat.lt_succ_self _

/-- What a header opens: the value with it, the steps to it, and the names of records that
only headers of inner ones made. -/
structure Opened where
  value : Value
  steps : List Step
  implied : List String

/-- Record that a header makes, or list of one. -/
def newRecord (isLast many : Bool) : Value :=
  if isLast && many then .list [.record []] else .record []

/-- What a header for many records opens next in a value: of a list the last item. -/
def enterList (many : Bool) (v : Value) : Except ReadFault (List Step) :=
  if !many then .ok []
  else match v with
    | .record _ => .ok []
    | .list items => if items.isEmpty then .error .outside else .ok [.lastItem]
    | .text s => if s = "" then .error .outside else .ok []
    | _ => .error .unfit

/-- Entry that is there already, opened again by the last name of a header. Only a record
that inner headers made can be opened once more, and a list gets another record. -/
def reopen (many : Bool) (implied : List String) (name : String) (v : Value) :
    Except ReadFault (Value × List String) :=
  if implied.contains name then
    if many then .error .malformed else .ok (v, implied.erase name)
  else if many then
    match v with
    | .list items => .ok (.list (items ++ [.record []]), implied)
    | _ => .error .noSuchPart
  else .error .malformed

/-- Opens the names of a header one inside the other. A list stands for its last item, and
there a name may be opened again. -/
def openNames (many : Bool) (implied : List String) : List String → Value → Except ReadFault Opened
  | [], v => .ok ⟨v, [], implied⟩
  | name :: names, v => do
    if name = "" then throw .malformed
    let enter (inner : Value) (implied : List String) : Except ReadFault Opened := do
      let down ← enterList many inner
      let o ← changeAt (fun v => do
        let o ← openNames many implied names v
        return (o.value, o)) down inner
      return { o.2 with value := o.1, steps := .entry name :: down ++ o.2.steps }
    match v with
    | .record r =>
      let (inner, implied) ← match Table.get? r name with
        | some inner =>
          if names.isEmpty then reopen many implied name inner else pure (inner, implied)
        | none =>
          pure (newRecord names.isEmpty many, if names.isEmpty then implied else implied ++ [name])
      let o ← enter inner implied
      return { o with value := .record (Table.put r name o.value) }
    | .list items =>
      match items.getLast? with
      | some (.record r) =>
        let o ← enter ((Table.get? r name).getD (newRecord names.isEmpty many)) implied
        return { o with
          value := .list (items.dropLast ++ [.record (Table.put r name o.value)])
          steps := .lastItem :: o.steps }
      | some _ => throw .unfit
      | none => throw .outside
    | .text s => if s = "" then throw .outside else throw .unfit
    | _ => throw .unfit

/-- Names of the line of a header, given behind its brackets. -/
def headerPath (many : Bool) (line : List Char) : Except ReadFault (List String) :=
  let closing := if many then [']', ']'] else [']']
  let cut (cs : List Char) : List (List Char) := if many then splitPairs ']' ']' cs else splitOn ']' cs
  let count := marksInQuotes cut false (quotePieces line) + 1
  let parts := atMost count closing (cut line)
  if parts.length < count + 1 || !allBlank (parts.getLastD []) then .error .malformed
  else headerNames (splitOn '.' (closing.intercalate parts.dropLast))

/-! ## 3. Lines -/

/-- State of reading: the record so far, the steps to the open one inside it, the names of
records that only headers of inner ones made, and a value that goes on. -/
structure Reading where
  root : Value := .record []
  steps : List Step := []
  implied : List String := []
  pending : Option Pending := none

/-- State after the line of a header. -/
def readHeader (s : Reading) (line : List Char) : Except ReadFault Reading := do
  let (many, body) := match line with
    | '[' :: rest => (true, rest)
    | _ => (false, line)
  if line.isEmpty then throw .malformed
  let o ← openNames many s.implied (← headerPath many body) s.root
  return { s with root := o.value, steps := o.steps, implied := o.implied }

/-- Tells whether a line ends the value that goes on, given its text with the line: a list
ends with its bracket, a text with its quotes. -/
def closes (text line : List Char) : Except ReadFault Bool :=
  if text.head? = some '[' then
    match line.getLast? with
    | some c => .ok (c = ']')
    | none => .error .outside
  else
    .ok (match text.head? with
      | some q => [q, q, q].isSuffixOf line
      | none => false)

/-- State after another line of a value that goes on. -/
def readMore (s : Reading) (p : Pending) (line : List Char) : Except ReadFault Reading := do
  let text := p.text ++ line
  if ← closes text line then
    let value ← readValue (stepsFor text) maxDepth true text
    let put : Value → Except ReadFault (Value × Unit)
      | .record r => .ok (.record (Table.put r p.name value), ())
      | _ => .error .unfit
    return { s with root := (← changeAt put s.steps s.root).1, pending := none }
  else return { s with pending := some (.ofText p.name text) }

/-- State after a line that is not empty and continues nothing. -/
def readNew (s : Reading) (line : List Char) : Except ReadFault Reading := do
  let change (f : Value → Except ReadFault (Value × Option Pending)) : Except ReadFault Reading := do
    let (root, pending) ← changeAt f s.steps s.root
    return { s with root, pending }
  match line with
  | '[' :: rest => readHeader s rest
  | '\x7b' :: rest =>
    if line.getLast? ≠ some '\x7d' then throw .malformed
    let entries ← entriesOf rest.dropLast
    change fun v => return (← readEntries (stepsFor line) maxDepth v entries, none)
  | _ => if line.contains '=' then change (readEntry (stepsFor line) maxDepth · line) else return s

/-- State after a line. White space around it does not count, unless a value goes on and the
line end before it was not hidden. -/
def readLine (s : Reading) (text : String) : Except ReadFault Reading :=
  let trimmed := trimWhile isBlank text.toList
  match s.pending with
  | none => if trimmed.isEmpty then .ok s else readNew s trimmed
  | some p =>
    let line := if p.hidesEnd || !p.text.contains '\n' then trimmed else text.toList
    if line.isEmpty && p.hidesEnd then .ok s else readMore s p line

/-- Record of a configuration text. A value that still goes on at its end is not there. -/
def read (text : String) : Except ReadFault Record := do
  match (← (← layOut text).foldlM readLine {}).root with
  | .record r => return r
  | _ => throw .unfit

end ClientGen.Toml
