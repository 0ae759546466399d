import ClientGen.Text.Split

/-!
# Type expressions

Types as they stand in generated code: a name, a row of types, or a wrapper around a row
(`Dict[str, int]`). They are kept as trees and written only at the end.
-/
namespace ClientGen

open ClientGen.Text

/-- A type in generated code. -/
inductive TypeExpr where
  | name (text : String)
  | row (items : List TypeExpr)
  | wrap (wrapper : String) (items : List TypeExpr)
  deriving Repr

namespace TypeExpr

mutual

/-- Text of a type. -/
def text : TypeExpr → String
  | .name s => s
  | .row items => join ", " (texts items)
  | .wrap w items => w ++ "[" ++ join ", " (texts items) ++ "]"

/-- Texts of types. -/
def texts : List TypeExpr → List String
  | [] => []
  | t :: ts => text t :: texts ts

end

mutual

/-- Names in a type from left to right, wrappers left out. -/
def names : TypeExpr → List String
  | .name s => [s]
  | .row items => namesOf items
  | .wrap _ items => namesOf items

/-- Names in a row of types. -/
def namesOf : List TypeExpr → List String
  | [] => []
  | t :: ts => names t ++ namesOf ts

end

/-- List of a type. -/
def list (t : TypeExpr) : TypeExpr := .wrap "List" [t]

/-- Map from texts to a type. -/
def dict (t : TypeExpr) : TypeExpr := .wrap "Dict" [.name "str", t]

/-- Type or nothing. -/
def optional (t : TypeExpr) : TypeExpr := .wrap "Optional" [t]

/-- Any of several types. -/
def union (ts : List TypeExpr) : TypeExpr := .wrap "Union" ts

end TypeExpr

end ClientGen
