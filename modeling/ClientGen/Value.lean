import ClientGen.Moment
import ClientGen.Number.Shortest
import ClientGen.Table
import ClientGen.Text.Quoted
import ClientGen.Text.Split

/-!
# Structured values

The values that description documents and configuration files are made of. Records keep
their entries in the order written: order is data, because sections of a description are
processed in it. Integers and floating-point numbers are kept apart, because their texts
differ. This file fixes

* values, which of them count as given, and when two are equal;
* documents: a value may hold itself, and then its parts name it by a number;
* the text of a value; what holds itself is written once and then cut short;
* values as keys.
-/
namespace ClientGen

open ClientGen.Text ClientGen.Number

/-! ## 1. Values -/

/-- A value of a document. -/
inductive Value where
  | null
  | bool (b : Bool)
  | int (n : Int)
  | float (x : Binary64)
  | text (s : String)
  | moment (m : Moment)
  | list (items : List Value)
  | record (entries : List (String × Value))
  /-- The list or record of a number among those of a document that hold themselves, as it
  is seen from inside the ones whose numbers follow. -/
  | loop (number : Nat) (inside : List Nat)
  deriving Repr

instance : Inhabited Value := ⟨.null⟩

/-- Entries of a record. -/
abbrev Record := Table Value

namespace Value

/-- Tells whether a value counts as given: zero, empty and false ones do not. -/
def isGiven : Value → Bool
  | .null => false
  | .bool b => b
  | .int n => n ≠ 0
  | .float x => !x.isZero
  | .text s => s ≠ ""
  | .list items => !items.isEmpty
  | .record entries => !entries.isEmpty
  | .moment _ | .loop _ _ => true

mutual

/-- Tells whether two values are the same. -/
def same : Value → Value → Bool
  | .null, .null => true
  | .bool a, .bool b => a = b
  | .int m, .int n => m = n
  | .float x, .float y => x = y
  | .text s, .text t => s = t
  | .moment m, .moment n => m = n
  | .list vs, .list ws => sameItems vs ws
  | .record es, .record fs => sameEntries es fs
  | .loop m is, .loop n js => m = n && is = js
  | _, _ => false

/-- The same for the items of two lists. -/
def sameItems : List Value → List Value → Bool
  | [], [] => true
  | v :: vs, w :: ws => same v w && sameItems vs ws
  | _, _ => false

/-- The same for the entries of two records. -/
def sameEntries : List (String × Value) → List (String × Value) → Bool
  | [], [] => true
  | (k, v) :: es, (l, w) :: fs => k = l && same v w && sameEntries es fs
  | _, _ => false

end

mutual

/-- Values are the same exactly when they are equal. -/
theorem same_iff (v w : Value) : same v w = true ↔ v = w := by
  cases v <;> cases w <;> simp [same, sameItems_iff, sameEntries_iff]

/-- Items are the same exactly when they are equal. -/
theorem sameItems_iff (vs ws : List Value) : sameItems vs ws = true ↔ vs = ws := by
  cases vs with
  | nil => cases ws <;> simp [sameItems]
  | cons v vs => cases ws <;> simp [sameItems, same_iff v, sameItems_iff vs]

/-- Entries are the same exactly when they are equal. -/
theorem sameEntries_iff (es fs : List (String × Value)) : sameEntries es fs = true ↔ es = fs := by
  cases es with
  | nil => cases fs <;> simp [sameEntries]
  | cons e es =>
    obtain ⟨k, v⟩ := e
    cases fs with
    | nil => simp [sameEntries]
    | cons f fs =>
      obtain ⟨l, w⟩ := f
      simp [sameEntries, same_iff v, sameEntries_iff es, and_assoc]

end

instance : DecidableEq Value := fun v w => decidable_of_iff _ (same_iff v w)

/-! ## 2. Text of a value -/

mutual

/-- Text of a value inside another one: texts are quoted. `again` is the text of what holds
itself. -/
def inner (again : Nat → List Nat → String) : Value → String
  | .null => "None"
  | .bool b => if b then "True" else "False"
  | .int n => integerText n
  | .float x => x.text
  | .text s => quoted s
  | .moment m => m.inner
  | .list items => "[" ++ join ", " (innerAll again items) ++ "]"
  | .record entries => "\x7b" ++ join ", " (innerEntries again entries) ++ "\x7d"
  | .loop number inside => again number inside

/-- Texts of the items of a list. -/
def innerAll (again : Nat → List Nat → String) : List Value → List String
  | [] => []
  | v :: vs => inner again v :: innerAll again vs

/-- Texts of the entries of a record. -/
def innerEntries (again : Nat → List Nat → String) : List (String × Value) → List String
  | [] => []
  | (k, v) :: es => (quoted k ++ ": " ++ inner again v) :: innerEntries again es

end

/-- Text of a value; a text is its own. -/
def displayWith (again : Nat → List Nat → String) : Value → String
  | .text s => s
  | .moment m => m.text
  | v => inner again v

/-- Text of a value that does not hold itself. -/
def display : Value → String := displayWith fun _ _ => ""

mutual

/-- Tells whether a value holds an integer with more digits than are ever written. -/
def hasLongInteger : Value → Bool
  | .int n => isLong n
  | .list items => anyLongInteger items
  | .record entries => anyLongEntry entries
  | _ => false

/-- The same for some item of a list. -/
def anyLongInteger : List Value → Bool
  | [] => false
  | v :: vs => hasLongInteger v || anyLongInteger vs

/-- The same for some entry of a record. -/
def anyLongEntry : List (String × Value) → Bool
  | [] => false
  | (_, v) :: es => hasLongInteger v || anyLongEntry es

end

/-! ## 3. Values that hold themselves -/

mutual

/-- Value as it is seen from inside one more list or record. -/
def seenFrom (number : Nat) : Value → Value
  | .list items => .list (itemsSeenFrom number items)
  | .record entries => .record (entriesSeenFrom number entries)
  | .loop n inside => .loop n (number :: inside)
  | v => v

/-- Items as they are seen from inside. -/
def itemsSeenFrom (number : Nat) : List Value → List Value
  | [] => []
  | v :: vs => seenFrom number v :: itemsSeenFrom number vs

/-- Entries as they are seen from inside. -/
def entriesSeenFrom (number : Nat) : List (String × Value) → List (String × Value)
  | [] => []
  | (k, v) :: es => (k, seenFrom number v) :: entriesSeenFrom number es

end

end Value

/-- A document: a value, and the lists and records that hold themselves. The whole document
may be a reference to a part of it. -/
structure Document where
  root : Value
  loops : List Value := []
  isReference : Bool := false
  deriving DecidableEq, Repr

namespace Document

/-- A value in which nothing holds itself is a document. -/
instance : Coe Value Document := ⟨fun v => { root := v }⟩

/-- Value that a part of the document is. -/
def part (d : Document) : Value → Value
  | .loop number _ => (d.loops.getD number .null).seenFrom number
  | v => v

/-- Text of a list or record that holds itself; where one stands inside itself it is cut
short. Each step goes into another one, so as many steps as there are of them suffice. -/
def loopText (d : Document) : Nat → List Nat → Nat → List Nat → String
  | 0, _, _, _ => ""
  | steps + 1, open_, number, inside =>
    let whole := d.loops.getD number .null
    if open_.contains number || inside.contains number then
      match whole with
      | .list _ => "[...]"
      | _ => "\x7b...\x7d"
    else whole.inner (loopText d steps (number :: open_ ++ inside))

/-- Text of a part of the document; a text is its own. -/
def display (d : Document) (v : Value) : String :=
  let steps := d.loops.length + 1
  match v with
  | .loop number _ => d.loopText steps [] number []
  | v => v.displayWith (d.loopText steps [])

end Document

namespace Value

/-! ## 4. Values as keys -/

/-- Number that a value stands for when values are compared as keys; truth values are
zero and one. -/
def keyNumber? : Value → Option Int
  | .bool b => some (if b then 1 else 0)
  | .int n => some n
  | .float x => x.toInt?
  | _ => none

/-- Tells whether two values are the same key. -/
def sameKey (a b : Value) : Bool :=
  match a, b with
  | .null, .null => true
  | .text s, .text t => s = t
  | .float x, .float y => x ≠ .nan && (x = y || (x.isZero && y.isZero))
  | a, b =>
    match a.keyNumber?, b.keyNumber? with
    | some m, some n => m = n
    | _, _ => false

/-- Kinds of values. -/
inductive Kind where
  | null | bool | int | float | text | moment | list | record
  deriving DecidableEq, Repr

/-- Kind of a value; what holds itself is opened first, and counts as a record. -/
def kind : Value → Kind
  | .null => .null
  | .bool _ => .bool
  | .int _ => .int
  | .float _ => .float
  | .text _ => .text
  | .moment _ => .moment
  | .list _ => .list
  | .record _ | .loop _ _ => .record

/-- Name of a kind. -/
def Kind.name : Kind → String
  | .null => "NoneType"
  | .bool => "bool"
  | .int => "int"
  | .float => "float"
  | .text => "str"
  | .moment => "datetime"
  | .list => "list"
  | .record => "dict"

/-- Tells whether a value can be a key: lists and records cannot. -/
def canBeKey : Value → Bool
  | .list _ => false
  | .record _ => false
  | .loop _ _ => false
  | _ => true

end Value

end ClientGen
