import ClientGen.Text.Percent
import ClientGen.Text.Split

/-!
# Pointers

A pointer leads from a document to a part of it: names and positions with slashes between
them. It may have percent escapes, and escapes for slashes and tildes inside a name.
-/
namespace ClientGen.Json

open ClientGen.Text

/-- Text with each pair of a tilde and a given digit read as one character. -/
def readTildes (digit meaning : Char) : List Char → List Char
  | '~' :: d :: cs =>
    if d = digit then meaning :: readTildes digit meaning cs
    else '~' :: readTildes digit meaning (d :: cs)
  | c :: cs => c :: readTildes digit meaning cs
  | [] => []

/-- Part of a pointer with its slashes, then its tildes. -/
def unescapePart (cs : List Char) : List Char := readTildes '0' '~' (readTildes '1' '/' cs)

/-- Parts of a pointer. Slashes before the first one do not count. -/
def pointerParts (pointer : String) : List String :=
  if pointer = "" then []
  else
    let body := unescapePercent (String.ofList (pointer.toList.dropWhile (· = '/')))
    (splitOn '/' body.toList).map fun p => String.ofList (unescapePart p)

end ClientGen.Json
