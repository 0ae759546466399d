import ClientGen.Address.Relative
import ClientGen.Text.Base64
import ClientGen.Text.Percent
import ClientGen.Value

/-!
# Documents outside

A reference may lead out of the document that it stands in: its address holds the other
document, or names a file with it. This file fixes

* references: records with a text under `$ref`, and those that a value holds;
* where the document of an address is found.
-/
namespace ClientGen.Json

open ClientGen.Text

/-! ## 1. References -/

/-- Reference that a value is. -/
def reference? : Value → Option String
  | .record entries =>
    match Table.get? entries "$ref" with
    | some (.text s) => some s
    | _ => none
  | _ => none

mutual

/-- References that a value holds, itself included. -/
def referencesIn (v : Value) : List String :=
  match v with
  | .list items => referencesInItems items
  | .record entries => (reference? (.record entries)).toList ++ referencesInEntries entries
  | _ => []

/-- References that items hold. -/
def referencesInItems : List Value → List String
  | [] => []
  | v :: vs => referencesIn v ++ referencesInItems vs

/-- References that entries hold. -/
def referencesInEntries : List (String × Value) → List String
  | [] => []
  | (_, v) :: es => referencesIn v ++ referencesInEntries es

end

/-- Addresses that the references of a document lead to; `base` is its own address. -/
def addressesIn (base : String) (v : Value) : List String :=
  (referencesIn v).filterMap fun ref =>
    ((do Address.cutFragment (← Address.joined base ref)).map Prod.fst).toOption

/-! ## 2. Where documents are found -/

/-- Where the document of an address is found. -/
inductive Outside where
  /-- The address holds the text. -/
  | written (text : String)
  /-- The text is that of a file. -/
  | inFile (path : String)

/-- Address without the blanks, angle brackets and the word that it may be wrapped in. -/
def unwrapped (s : String) : List Char :=
  let cs := trimWhile isBlank s.toList
  let cs :=
    if cs.head? = some '<' && cs.getLast? = some '>' then
      trimWhile isBlank (cs.drop 1).dropLast
    else cs
  if "URL:".toList.isPrefixOf cs then trimWhile isBlank (cs.drop 4) else cs

/-- Text that bytes write, if they write one. -/
def textOf? (bytes : List Nat) : Option String :=
  String.fromUTF8? ⟨(bytes.map Nat.toUInt8).toArray⟩

/-- Text that an address holds: behind its first comma, as bytes in 64 characters if what is
before the comma says so. -/
def writtenText? (cs : List Char) : Option String := do
  let (kind, body) := Address.cutOnce ',' cs
  if !cs.contains ',' || body.any isStandIn then none
  let bytes := percentBytes body
  if ";base64".toList.isSuffixOf kind then textOf? (← base64Bytes? (bytes.map Char.ofNat))
  else textOf? bytes

/-- Path that an address names. It must be one of this computer. -/
def filePath? (cs : List Char) : Option String :=
  match cs with
  | '/' :: '/' :: rest =>
    let (host, path) := Address.cutAt ['/', '?', '#'] rest
    if host = [] || host = "localhost".toList then
      some (unescapePercent (String.ofList (if path = [] || path.head? = some '/' then path
        else '/' :: path)))
    else none
  | cs => some (unescapePercent (String.ofList cs))

/-- Where the document of an address is found, if it is one of those that are looked for. -/
def outside? (address : String) : Option Outside :=
  let cs := unwrapped address
  let scheme := cs.takeWhile fun c => c ≠ ':' && c ≠ '/'
  let rest := cs.drop (scheme.length + 1)
  if scheme = [] || (cs.drop scheme.length).head? ≠ some ':' then none
  else
    match toLower (String.ofList scheme) with
    | "data" => (writtenText? rest).map .written
    | "file" => (filePath? rest).map .inFile
    | _ => none

end ClientGen.Json
