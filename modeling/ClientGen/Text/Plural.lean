import ClientGen.Text.Letter
import ClientGen.Text.Split

/-!
# Plurals

The plural of an English noun: a short list of irregular nouns, then the spelling
rules for sibilants and for a final y after a consonant.
-/
namespace ClientGen.Text

/-- Nouns whose plural no rule gives. -/
def irregularPlurals : List (String × String) :=
  [("child", "children"), ("echo", "echoes"), ("hero", "heroes"), ("person", "people"),
   ("potato", "potatoes")]

/-- Endings after which the plural adds a syllable. -/
def sibilants : List String := ["s", "x", "z", "ch", "sh"]

/-- Tells whether a small-letter word ends in y after a consonant. -/
def endsInConsonantY (lower : String) : Bool :=
  match lower.toList.reverse with
  | 'y' :: before :: _ => !("aeiou".toList.contains before)
  | _ => false

/-- Plural of a noun; an irregular one is written in small letters. -/
def pluralize (word : String) : String :=
  if word = "" then ""
  else
    let lower := toLower word
    match irregularPlurals.lookup lower with
    | some plural => plural
    | none =>
      if sibilants.any (endsWith lower ·) then word ++ "es"
      else if endsInConsonantY lower then dropEnd 1 word ++ "ies"
      else word ++ "s"

end ClientGen.Text
