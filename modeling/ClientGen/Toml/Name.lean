import ClientGen.Text.Split

/-!
# Names in configuration texts

A name of letters, digits, underscores and hyphens stands as it is; any other is quoted. The
rule is one for names that are written and for those of headers that are read.
-/
namespace ClientGen.Toml

open ClientGen.Text

/-- Tells whether a name needs no quotes; a line feed at its end does not count. -/
def isBareName (s : String) : Bool :=
  let cs := (if endsWith s "\n" then dropEnd 1 s else s).toList
  !cs.isEmpty && cs.all fun c => c.isAlphanum || c = '_' || c = '-'

end ClientGen.Toml
