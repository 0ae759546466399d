import ClientGen.Source.Function
import ClientGen.Table

/-!
# Classes of generated code

A class is kept as data: bases, documentation, attributes, and its members. Members are
blocks and functions; they are written by falling rank, blocks before functions of the
same rank, and otherwise in the order of insertion. Functions are held by name, so that
adding a function again replaces it in place.
-/
namespace ClientGen.Source

open ClientGen.Text

/-- A class. -/
structure Class where
  name : String
  functions : Table Function := []
  blocks : List Block := []
  parameters : List Parameter := []
  inherits : List String := []
  description : Option String := none
  order : Int := 0

/-- Texts by falling rank; equal ranks keep their order. -/
def byRank (ranked : List (Int × String)) : List String :=
  (sortBy (fun a b => b.1 ≤ a.1) ranked).map Prod.snd

namespace Class

/-- Documentation string of a class. -/
def docstring (c : Class) : Option String :=
  (Function.givenText? c.description).map fun d => "\"\"\"" ++ escapeDoc d ++ "\"\"\""

/-- Attributes on lines of their own. -/
def attributes (c : Class) : Option String :=
  if c.parameters.isEmpty then none else some (unlines (c.parameters.map (·.text)))

/-- Blocks and functions with their ranks, in the order of insertion. -/
def ranked (c : Class) : List (Int × String) :=
  c.blocks.map (fun b => (b.order, b.text)) ++
    (Table.values c.functions).map fun f => (f.order, f.text)

/-- Everything between the first line and the end. -/
def members (c : Class) : List String :=
  c.docstring.toList ++ c.attributes.toList ++ byRank c.ranked

/-- First line of a class. -/
def header (c : Class) : String :=
  "class " ++ c.name ++ (if c.inherits.isEmpty then "" else "(" ++ join ", " c.inherits ++ ")") ++ ":"

/-- Text of a class; one without members has a placeholder. -/
def text (c : Class) : String :=
  c.header ++ "\n" ++ indent (if c.members.isEmpty then "pass" else join "\n\n" c.members)

/-- Class of a given rank among its neighbours. -/
def withRank (c : Class) (order : Int) : Class := { c with order }

/-- Class with a function added. -/
def addFunction (c : Class) (f : Function) : Class :=
  { c with functions := Table.put c.functions f.name f }

/-- Class with a block added. -/
def addBlock (c : Class) (b : Block) : Class := { c with blocks := c.blocks ++ [b] }

end Class

end ClientGen.Source
