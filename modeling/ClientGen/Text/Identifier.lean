import ClientGen.Text.Digit

/-!
# Identifiers of the generated code

Generated code is Python. A name taken from a description becomes an identifier by an
underscore before a leading digit and an underscore after a reserved word. Reserved
words are of two sorts: hard ones, which can never be a name, and soft ones, which are
reserved in some places only and are avoided all the same.
-/
namespace ClientGen.Text

/-- Words that can never be a name. -/
def hardKeywords : List String :=
  ["False", "None", "True", "and", "as", "assert", "async", "await", "break", "class",
   "continue", "def", "del", "elif", "else", "except", "finally", "for", "from", "global",
   "if", "import", "in", "is", "lambda", "nonlocal", "not", "or", "pass", "raise", "return",
   "try", "while", "with", "yield"]

/-- Words reserved in some places. -/
def softKeywords : List String := ["_", "case", "match"]

/-- Tells whether a word is reserved anywhere. -/
def isKeyword (s : String) : Bool := hardKeywords.contains s || softKeywords.contains s

/-- Tells whether a text starts with a digit of any script. -/
def startsWithDigit (s : String) : Bool := (s.toList.head?.map isDigit).getD false

/-- Name as an identifier: nothing becomes an underscore, a leading digit gets one
before it, a reserved word one after it. -/
def safeName (s : String) : String :=
  if s = "" then "_"
  else
    let name := if startsWithDigit s then "_" ++ s else s
    if isKeyword name then name ++ "_" else name

end ClientGen.Text
