import ClientGen.TypeExpr
import ClientGen.Text.Casing
import ClientGen.Text.Plural

/-!
# Type references

What a type notation refers to: a primitive, a declared type, or a list, map or option
of another reference. This file fixes

* the primitives, their names and their types in generated code;
* references, the notation that writes one, and its short name;
* the names of error bodies and error classes, which follow from a reference alone.
-/
namespace ClientGen

open ClientGen.Text

/-! ## 1. Primitives -/

/-- Primitive types. -/
inductive Primitive where
  | string | integer | long | double | decimal | boolean | uuid | date | dateTime | object | unit
  deriving DecidableEq, Repr

namespace Primitive

/-- All primitives. -/
def all : List Primitive :=
  [.string, .integer, .long, .double, .decimal, .boolean, .uuid, .date, .dateTime, .object, .unit]

/-- Name in notations. -/
def name : Primitive → String
  | .string => "string"
  | .integer => "integer"
  | .long => "long"
  | .double => "double"
  | .decimal => "decimal"
  | .boolean => "boolean"
  | .uuid => "uuid"
  | .date => "date-iso8601"
  | .dateTime => "date-time-iso8601"
  | .object => "object"
  | .unit => "unit"

/-- Primitive of a name. -/
def ofName? (s : String) : Option Primitive := all.find? (·.name = s)

/-- Type in generated code. -/
def type : Primitive → TypeExpr
  | .string => .name "str"
  | .integer => .name "int"
  | .long => .name "int"
  | .double => .name "float"
  | .decimal => .name "decimal.Decimal"
  | .boolean => .name "bool"
  | .uuid => .name "uuid.UUID"
  | .date => .name "datetime.date"
  | .dateTime => .name "datetime.datetime"
  | .object => .dict (.name "Any")
  | .unit => .name "None"

/-- Class that the values belong to at run time; unit has none. -/
def runtimeClass? : Primitive → Option String
  | .object => some "dict"
  | .unit => none
  | p => some p.type.text

end Primitive

/-! ## 2. References -/

/-- Kind of a declared type. -/
inductive NamedKind where
  | enum | model | union
  deriving DecidableEq, Repr

/-- A reference to a type. -/
inductive TypeRef where
  | primitive (p : Primitive)
  | named (kind : NamedKind) (name : String)
  | list (of : TypeRef)
  | map (of : TypeRef)
  | option (of : TypeRef)
  deriving DecidableEq, Repr

namespace TypeRef

/-- Notation of a reference; options have none of their own. -/
def written : TypeRef → String
  | .primitive p => p.name
  | .named _ name => name
  | .list of => "[" ++ of.written ++ "]"
  | .map of => "map[" ++ of.written ++ "]"
  | .option of => of.written

/-- Name of the type inside all wrappers. -/
def shortName : TypeRef → String
  | .primitive p => p.name
  | .named _ name => name
  | .list of => of.shortName
  | .map of => of.shortName
  | .option of => of.shortName

/-- Tells whether a reference is to a declared type. -/
def isNamed : TypeRef → Bool
  | .named _ _ => true
  | _ => false

/-- Tells whether a reference is a primitive. -/
def isPrimitive : TypeRef → Bool
  | .primitive _ => true
  | _ => false

/-- Reference whose value may be missing; an option stays as it is. -/
def optional : TypeRef → TypeRef
  | .option of => .option of
  | ref => .option ref

/-- Tells whether a value can be read from one text of a request: primitives and enums
can, unless they are objects or units. -/
def isBindable : TypeRef → Bool
  | .option of => of.isBindable
  | .named .enum _ => true
  | .primitive p => p ≠ .object && p ≠ .unit
  | _ => false

/-! ## 3. Names of error bodies -/

/-- Name of an error body: plural for a list, with an ending for a map. -/
def errorVariable (ref : TypeRef) : String :=
  let base := snakeCase ref.shortName
  match ref with
  | .list _ => pluralize base
  | .map _ => base ++ "_map"
  | _ => base

/-- Class of the error that carries a body. -/
def errorClass (ref : TypeRef) : String := pascalCase ref.errorVariable ++ "Response"

end TypeRef

end ClientGen
