import ClientGen.Text.Indent

/-!
# Blocks of code

A block is a stretch of code with a rank among its neighbours; higher ranks come first.
Blocks are joined, empty ones being left out, and set under a header one level deeper.
Tabs are written as four spaces.
-/
namespace ClientGen.Source

open ClientGen.Text

/-- A stretch of code with its rank. -/
structure Block where
  order : Int := 0
  code : String := "pass"
  deriving DecidableEq, Repr

namespace Block

/-- Block of rank zero. -/
def ofCode (code : String) : Block := { code }

/-- Code of a block as written. -/
def text (b : Block) : String := expandTabs b.code

/-- Parts that are not empty, with the separator between neighbours. -/
def joinTexts (sep : String) (parts : List String) : String := join sep (parts.filter (· ≠ ""))

/-- Parts that are not empty, one after another on lines of their own. -/
def stack (parts : List String) : String := joinTexts "\n" parts

/-- Header with a body one level deeper. -/
def nested (header body : String) : String := header ++ "\n" ++ indent body

end Block

end ClientGen.Source
