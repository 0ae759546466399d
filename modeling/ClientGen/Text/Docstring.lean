import ClientGen.Text.Blank

/-!
# Documentation texts

Free text of a description goes into documentation strings, which three double quotes
open and close. Trimming, doubling each backslash and replacing three double quotes by
three single ones keeps most of it from closing the string early.
-/
namespace ClientGen.Text

/-- Each backslash twice. -/
def doubleBackslashes (cs : List Char) : List Char :=
  cs.flatMap fun c => if c = '\\' then ['\\', '\\'] else [c]

/-- Three double quotes in a row become three single ones, from the left. -/
def softenQuotes : List Char → List Char
  | '"' :: '"' :: '"' :: cs => '\'' :: '\'' :: '\'' :: softenQuotes cs
  | c :: cs => c :: softenQuotes cs
  | [] => []

/-- Free text prepared for a documentation string. -/
def escapeDoc (s : String) : String :=
  String.ofList (softenQuotes (doubleBackslashes (trimWhile isBlank s.toList)))

end ClientGen.Text
