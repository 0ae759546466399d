import ClientGen.Json.Outside
import ClientGen.Json.Pointer
import Std.Data.HashMap
import Std.Data.HashSet

/-!
# References inside documents

A record with a text under `$ref` stands for a part of a document. The text is an address,
most often one that names the document itself, with a pointer behind a number sign. What else
the record holds does not count. This file fixes

* parts of documents, each with its place;
* targets: where a reference leads, through further references if need be. Inside itself a
  reference is the record that it is written as. A target that was found is remembered;
* the order in which the references of a document are met, and those met too early;
* which lists and records come to hold themselves;
* the document with every reference replaced. A list or record that holds itself is kept apart
  and named by its number.
-/
namespace ClientGen.Json

open ClientGen.Text ClientGen.Number

/-! ## 1. Parts of documents -/

/-- Why a reference has no target: it leads nowhere, references lead in a circle or too far, or
the authority in its text is refused; or the document is nested too deep to be searched. -/
inductive ReferenceFault where
  | dangling
  | endless
  | authority (fault : Address.AuthorityFault)
  | tooDeep
  deriving DecidableEq, Repr

/-- Step into a record, a list or a text. -/
inductive Inward where
  | name (s : String)
  | position (i : Nat)
  deriving DecidableEq, Hashable, Repr

/-- Number of a document, and the steps that lead from it to a part, the last one first. -/
structure Place where
  document : Nat := 0
  steps : List Inward := []
  deriving DecidableEq, Hashable, Repr

/-- A part of a document with its place. -/
structure Part where
  place : Place
  value : Value

/-- Part that one more step leads to. -/
def Part.into (p : Part) (step : Inward) (value : Value) : Part :=
  ⟨{ p.place with steps := step :: p.place.steps }, value⟩

/-- Parts that a part holds. -/
def Part.children (p : Part) : List Part :=
  match p.value with
  | .list items => items.zipIdx.map fun (v, i) => p.into (.position i) v
  | .record entries => entries.map fun (k, v) => p.into (.name k) v
  | _ => []

/-- Tells whether a part is a list or a record. -/
def Part.isOpen (p : Part) : Bool :=
  match p.value with
  | .list _ | .record _ => true
  | _ => false

/-- Item at a position; a negative position counts from the end. -/
def itemAt? (items : List α) (position : Int) : Option (Nat × α) :=
  let i := if position < 0 then position + items.length else position
  if i < 0 then none else (items[i.toNat]?).map (i.toNat, ·)

/-- Part of a part that a pointer's part names. -/
def stepInto (p : Part) (name : String) : Option Part :=
  match p.value with
  | .record entries => (Table.get? entries name).map (p.into (.name name))
  | .list items =>
    match readInteger name with
    | .ok n => (itemAt? items n).map fun (i, v) => p.into (.position i) v
    | .error _ => none
  | .text s =>
    match readInteger name with
    | .ok n => (itemAt? s.toList n).map fun (i, c) => p.into (.position i) (.text c.toString)
    | .error _ => none
  | _ => none

/-- Address that a reference leads to from the document of another one, and its pointer. -/
def leadOf (base ref : String) : Except ReferenceFault (String × String) :=
  (do Address.cutFragment (← Address.joined base ref)).mapError .authority

/-- Address as it is compared with others. -/
def plainAddress (address : String) : Except ReferenceFault String :=
  (Address.plainText address).mapError .authority

/-! ## 2. References met too early -/

/-- How deep lists and records may be nested. -/
def maxNesting : Nat := 494

/-- Checks a reference that is met before its document is known: it leads nowhere. -/
def checkEarly (base ref : String) : Except ReferenceFault Unit := do
  let (address, _) ← leadOf base ref
  let _ ← plainAddress address
  throw .dangling

mutual

/-- Checks how deep a value is nested, `room` being what is left, and that no reference stands
where the text of one is looked for. -/
def checkDocument (base : String) (room : Nat) (v : Value) : Except ReferenceFault Unit :=
  match v, room with
  | .list _, 0 | .record _, 0 => .error .tooDeep
  | .list items, room + 1 => checkItems base room items
  | .record entries, room + 1 => do
    checkEntries base room entries
    match (Table.get? entries "$ref").bind reference? with
    | some ref => checkEarly base ref
    | none => return ()
  | _, _ => .ok ()

/-- Checks items. -/
def checkItems (base : String) (room : Nat) : List Value → Except ReferenceFault Unit
  | [] => .ok ()
  | v :: vs => do
    checkDocument base room v
    checkItems base room vs

/-- Checks entries. -/
def checkEntries (base : String) (room : Nat) : List (String × Value) → Except ReferenceFault Unit
  | [] => .ok ()
  | (_, v) :: es => do
    checkDocument base room v
    checkEntries base room es

end

/-! ## 3. Targets -/

/-- A document that references lead to: its address as it was first written, the plain text of
the address, and the value. -/
structure KnownDocument where
  address : String
  plainAddress : String
  value : Value

/-- What is known in a search: the documents, the first of which is the one searched; the parts
that references were found to stand for; and the places of lists and records met. -/
structure Search where
  documents : List KnownDocument
  settled : Std.HashMap Place Part := {}
  met : Std.HashSet Place := {}

/-- Steps of a search. `outside` gives the other documents by their addresses. -/
abbrev Searching := ReaderT (String → Option Value) (StateT Search (Except ReferenceFault))

/-- A whole document, as a part. -/
def wholeDocument (number : Nat) (d : KnownDocument) : Part := ⟨{ document := number }, d.value⟩

/-- Document of an address. One that is not known yet is looked for outside. -/
def documentAt (address : String) : Searching Part := do
  let plain ← plainAddress address
  let documents := (← get).documents
  match documents.zipIdx.find? fun d => d.1.plainAddress = plain with
  | some (d, number) => return wholeDocument number d
  | none =>
    let some value := (← readThe (String → Option Value)) address | throw .dangling
    checkDocument address maxNesting value
    let d : KnownDocument := ⟨address, plain, value⟩
    modify fun s => { s with documents := documents ++ [d] }
    return wholeDocument documents.length d

/-- Document that a reference in a part leads to, and the parts of its pointer. -/
def documentOf (self : Part) (ref : String) : Searching (Part × List String) := do
  let base := ((← get).documents[self.place.document]?).elim "" KnownDocument.address
  let (address, pointer) ← leadOf base ref
  return (← documentAt address, pointerParts pointer)

mutual

/-- Part that a part stands for: of a reference its target, else itself. Each reference on the
way takes a step. -/
def settle (steps : Nat) (p : Part) : Searching Part :=
  match reference? p.value with
  | none => return p
  | some ref => do
    match (← get).settled.get? p.place, steps with
    | some whole, _ => return whole
    | none, 0 => throw .endless
    | none, steps + 1 =>
      let (document, parts) ← documentOf p ref
      let found ← walk steps p document parts
      if found.place = p.place then throw .dangling
      let whole ← settle steps found
      modify fun s => { s with settled := s.settled.insert p.place whole }
      return whole
termination_by (steps, 0)

/-- Part that is reached from another one by the parts of a pointer. -/
def walk (steps : Nat) (self here : Part) (parts : List String) : Searching Part :=
  match parts with
  | [] => return here
  | name :: rest => do
    let whole ← if here.place = self.place then pure here else settle steps here
    match stepInto whole name with
    | some next => walk steps self next rest
    | none => throw .dangling
termination_by (steps, parts.length + 1)

end

/-- How far a search may go: each list and record inside another one takes a step, and a
reference that has to be settled takes four. -/
def maxRoom : Nat := 980

/-- Settles the references that are met in a part, a part before what it holds. -/
def settleIn : Nat → Part → Searching Unit
  | 0, _ => throw .endless
  | room + 1, p => do
    if p.isOpen && !(← get).met.contains p.place then
      modify fun s => { s with met := s.met.insert p.place }
      let whole ← settle (room / 4) p
      whole.children.forM (settleIn room)

/-! ## 4. What holds itself -/

/-- Part that a part was found to stand for. -/
def Search.whole (s : Search) (p : Part) : Part :=
  match reference? p.value with
  | some _ => s.settled.getD p.place p
  | none => p

/-- Lists and records that a settled part holds. -/
def Search.inside (s : Search) (p : Part) : List Part :=
  (p.children.map s.whole).filter Part.isOpen

/-- More than there are lists and records. -/
def Search.bound (s : Search) : Nat := s.met.size + s.settled.size + 1

/-- Tells whether some list or record that is met from a settled part on holds itself; `outer`
are the places of those around it. The state holds the places of those that are done. -/
def meetsItself (s : Search) : Nat → List Place → Part → StateM (Std.HashSet Place) Bool
  | 0, _, _ => return false
  | steps + 1, outer, p => do
    if outer.contains p.place then return true
    if (← get).contains p.place then return false
    let found ← (s.inside p).anyM (meetsItself s steps (p.place :: outer))
    modify (·.insert p.place)
    return found

/-- Gathers lists and records that are met from a settled part on, the last one first. -/
def gatherFrom (s : Search) : Nat → Part → StateM (Std.HashSet Place × List Part) Unit
  | 0, _ => return ()
  | steps + 1, p => do
    if (← get).1.contains p.place then return ()
    modify fun (places, parts) => (places.insert p.place, p :: parts)
    (s.inside p).forM (gatherFrom s steps)

/-- Lists and records that are met from some settled parts on, the last one first. -/
def gathered (s : Search) (parts : List Part) : List Part :=
  ((parts.forM (gatherFrom s s.bound)).run ({}, [])).2.2

/-- Lists and records that hold themselves among those that are met from a part on. -/
def loopsFrom (s : Search) (start : Part) : List Part :=
  if ((meetsItself s s.bound [] start).run {}).1 then
    (gathered s [start]).reverse.filter fun p =>
      (gathered s (s.inside p)).any (·.place = p.place)
  else []

/-! ## 5. Replacing -/

mutual

/-- Value of a part with its references replaced. Those whose places are among `loops` hold
themselves and are named by their numbers. The state holds the values that are known. -/
def replaced (s : Search) (loops : List Place) :
    Nat → Part → StateM (Std.HashMap Place Value) Value
  | 0, p => return p.value
  | steps + 1, p => do
    let whole := s.whole p
    if !whole.isOpen then return whole.value
    match loops.idxOf? whole.place, (← get).get? whole.place with
    | some number, _ => return .loop number []
    | none, some v => return v
    | none, none =>
      let v ← contents s loops steps whole
      modify (·.insert whole.place v)
      return v
termination_by steps => (steps, 0)

/-- Value of a settled part, the references in it replaced. -/
def contents (s : Search) (loops : List Place) (steps : Nat) (p : Part) :
    StateM (Std.HashMap Place Value) Value := do
  match p.value with
  | .list _ => return .list (← p.children.mapM (replaced s loops steps))
  | .record entries =>
    return .record ((entries.map Prod.fst).zip (← p.children.mapM (replaced s loops steps)))
  | v => return v
termination_by (steps, 1)

end

/-- Document of a value, every reference replaced by its target. `outside` gives the other
documents that references lead to, by their addresses. -/
def resolveReferences (outside : String → Option Value) (v : Value) :
    Except ReferenceFault Document := do
  checkDocument "" maxNesting v
  if (referencesIn v).isEmpty then return v
  let root : Part := ⟨{}, v⟩
  let (_, s) ← ((settleIn maxRoom root).run outside).run { documents := [⟨"", "", v⟩] }
  let loops := if root.isOpen then loopsFrom s (s.whole root) else []
  let places := loops.map Part.place
  let build : StateM (Std.HashMap Place Value) Document := do
    return { root := ← replaced s places s.bound root
             loops := ← loops.mapM (contents s places s.bound)
             isReference := (reference? v).isSome }
  return (build.run {}).1

end ClientGen.Json
