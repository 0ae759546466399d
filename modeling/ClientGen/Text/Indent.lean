import ClientGen.Text.Blank
import ClientGen.Text.Split

/-!
# Indentation

Each level is four spaces. Lines of nothing but white space become empty, so no line of
generated code ends in an indentation.
-/
namespace ClientGen.Text

/-- Spaces of an indentation. -/
def margin (level : Nat) : String := String.ofList (List.replicate (4 * level) ' ')

/-- One line moved in; a blank one becomes empty. -/
def indentLine (level : Nat) (line : String) : String :=
  if allBlank line.toList then "" else margin level ++ line

/-- Text with every line moved in by `level` levels. -/
def indentBy (level : Nat) (s : String) : String := unlines ((lines s).map (indentLine level))

/-- Text with every line moved in by one level. -/
def indent (s : String) : String := indentBy 1 s

end ClientGen.Text
