import ClientGen.Source.Block
import ClientGen.Text.Docstring
import ClientGen.TypeExpr

/-!
# Functions of generated code

A function is kept as data: parameters, answer type, documentation, code. Its text has
the parameters without a default before those with one, whatever their order, and a
documentation string made of the description and the sections for arguments, answer and
errors.
-/
namespace ClientGen.Source

open ClientGen.Text

/-! ## 1. Parts -/

/-- Parameter of a function, or attribute of a class. -/
structure Parameter where
  name : String
  default : Option String := none
  type : Option TypeExpr := none
  description : Option String := none

/-- Text of a parameter. -/
def Parameter.text (p : Parameter) : String :=
  p.name ++ ((p.type.map fun t => ": " ++ t.text).getD "")
    ++ ((p.default.map fun d => " = " ++ d).getD "")

/-- An error that a function raises, with when it does. -/
structure RaisedError where
  className : String
  description : String
  deriving DecidableEq, Repr

/-- A function. Without a block its code is left out. -/
structure Function where
  name : String
  parameters : List Parameter := []
  response : String := "None"
  isAsync : Bool := false
  decorators : List String := []
  description : Option String := none
  errors : List RaisedError := []
  code : Option Block := some {}
  order : Int := 0

namespace Function

/-! ## 2. Signature -/

/-- Parameters as written: those without a default first. -/
def orderedParameters (f : Function) : List Parameter :=
  f.parameters.filter (·.default.isNone) ++ f.parameters.filter (·.default.isSome)

/-- Parameters between parentheses; more than one stand on lines of their own. -/
def parameterList (ps : List Parameter) : String :=
  if 1 < ps.length then "(\n" ++ join ",\n" (ps.map fun p => indent p.text) ++ "\n)"
  else "(" ++ join ", " (ps.map (·.text)) ++ ")"

/-- First lines of a function, up to the colon. -/
def header (f : Function) : String :=
  (if f.isAsync then "async " else "") ++ "def " ++ f.name ++ parameterList f.orderedParameters
    ++ " -> " ++ f.response ++ ":"

/-! ## 3. Documentation -/

/-- Text that is there and not empty. -/
def givenText? (s : Option String) : Option String := s.filter (· ≠ "")

/-- Section on the parameters that have a description. -/
def argumentSection (f : Function) : Option String :=
  let lines := f.parameters.filterMap fun p => (givenText? p.description).map fun d =>
    "    " ++ p.name ++ " (" ++ ((p.type.map (·.text)).getD "None") ++ "): " ++ d
  if lines.isEmpty then none else some (unlines ("Args:" :: lines))

/-- Section on the answer. -/
def responseSection (f : Function) : Option String :=
  if f.response ≠ "" && f.response ≠ "None" then some (unlines ["Returns:", "    " ++ f.response])
  else none

/-- Section on the errors. -/
def errorSection (f : Function) : Option String :=
  if f.errors.isEmpty then none
  else some (unlines ("Raises:" :: f.errors.map fun e => "    " ++ e.className ++ ": " ++ e.description))

/-- Documentation string; a function without description and errors has none. -/
def docstring (f : Function) : Option String :=
  if (givenText? f.description).isNone && f.errors.isEmpty then none
  else
    let parts := ((givenText? f.description).map escapeDoc).toList ++ f.argumentSection.toList
      ++ f.responseSection.toList ++ f.errorSection.toList
    some ("\"\"\"" ++ join "\n\n" parts ++ "\n\"\"\"")

/-! ## 4. Text -/

/-- Documentation and code with an empty line between; nothing becomes a placeholder. -/
def body (f : Function) : String :=
  let text := Block.joinTexts "\n\n"
    [f.docstring.getD "", (f.code.map (·.text)).getD ""]
  if text = "" then "pass" else text

/-- Text of a function. -/
def text (f : Function) : String := unlines (f.decorators ++ [f.header, indent f.body])

end Function

end ClientGen.Source
