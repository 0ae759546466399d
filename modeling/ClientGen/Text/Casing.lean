import ClientGen.Text.Blank
import ClientGen.Text.Letter
import ClientGen.Text.Split

/-!
# Words of an identifier

Names in a description come in any spelling. Snake case writes their words small with
single underscores between them; camel case and Pascal case run capitalised words
together. A word ends at any character that is no ASCII letter or digit, before a
capital that starts a small-letter run, and between a small letter or digit and a
capital.
-/
namespace ClientGen.Text

/-! ## 1. Snake case -/

/-- Tells whether a character may stand in a word or between two words. -/
def isWordChar (c : Char) : Bool := c.isAlphanum || c = '_'

/-- Every run of other characters becomes one underscore; `open_` tells whether such a
run is being passed. -/
def underscoreRuns (open_ : Bool) : List Char → List Char
  | [] => []
  | c :: cs =>
    if isWordChar c then c :: underscoreRuns false cs
    else if open_ then underscoreRuns true cs
    else '_' :: underscoreRuns true cs

/-- Sets an underscore before each capital that a small letter follows, unless it is
the first character; the small letters after it belong to it and start no new search,
which `within` records. -/
def breakBeforeWord (within : Bool) : List Char → List Char
  | c :: u :: l :: cs =>
    if within && c.isLower then c :: breakBeforeWord true (u :: l :: cs)
    else if u.isUpper && l.isLower then c :: '_' :: u :: l :: breakBeforeWord true cs
    else c :: breakBeforeWord false (u :: l :: cs)
  | cs => cs

/-- Sets an underscore between a small letter or digit and a capital. -/
def breakBeforeCapital : List Char → List Char
  | c :: u :: cs =>
    if (c.isLower || c.isDigit) && u.isUpper then c :: '_' :: breakBeforeCapital (u :: cs)
    else c :: breakBeforeCapital (u :: cs)
  | cs => cs

/-- Non-empty stretches between underscores. -/
def wordsOf (cs : List Char) : List (List Char) := runsOf (· ≠ '_') cs

/-- Words with single underscores between them. -/
def joinWords : List (List Char) → List Char
  | [] => []
  | [w] => w
  | w :: v :: rest => w ++ '_' :: joinWords (v :: rest)

/-- Snake case over characters. -/
def snakeChars (cs : List Char) : List Char :=
  let broken := breakBeforeCapital (breakBeforeWord false (underscoreRuns false (trimWhile isBlank cs)))
  (joinWords (wordsOf broken)).map Char.toLower

/-- Snake case: small words with single underscores between them. -/
def snakeCase (s : String) : String := String.ofList (snakeChars s.toList)

/-! ## 2. Capitalised words -/

/-- Capitalises a word; an acronym stays as it is. -/
def capitalize (w : List Char) : List Char :=
  if isAcronym w then w
  else match w with
    | [] => []
    | c :: cs => upperOf c ++ cs

/-- Camel case: the words between underscores run together, the first one small and the
others capitalised. -/
def camelCase (s : String) : String :=
  match wordsOf s.toList with
  | [] => ""
  | w :: ws => String.ofList (lowerFrom [] w ++ ws.flatMap capitalize)

/-- Pascal case: the runs of ASCII letters and digits, capitalised and run together. -/
def pascalCase (s : String) : String :=
  String.ofList ((runsOf Char.isAlphanum s.toList).flatMap capitalize)

end ClientGen.Text
