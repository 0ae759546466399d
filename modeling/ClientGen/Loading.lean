import ClientGen.Json.Reader
import ClientGen.Json.Reference
import ClientGen.Shell

/-!
# Loading descriptions

A description is loaded from an address or from a file and has its references replaced. A
source that is neither is refused. Documents outside that references lead to are gathered
before.
-/
namespace ClientGen

open ClientGen.Text

/-- Loads the description at a source, or stops at a fault. -/
abbrev Loader (m : Type → Type) := String → m (Except Fault Document)

namespace Loading

variable {m : Type → Type} [Monad m]

/-- Value written in the bytes of a page. -/
def ofBody (body : List Nat) : Except Fault Value := do
  let text ← (Json.decode body).mapError .decoding
  (Json.readText text).mapError .document

/-- Value written in a source: a page or a file. -/
def valueOf (sh : Shell m) (source : String) : m (Except Fault Value) := do
  if Page.isAddress source then return (← Page.bodyAt sh.fetch source) >>= ofBody
  else if ← sh.isThere source then
    return (← sh.read source).mapError .file >>= fun text => (Json.read text).mapError .document
  else return .error (.unreadableSource source)

/-- Most documents outside that are gathered for one description. -/
def maxOutside : Nat := 100000

/-- Value of the document at an address outside, if there is one. -/
def valueOutside (sh : Shell m) (address : String) : m (Option Value) := do
  let text ← match Json.outside? address with
    | some (.written text) => pure (some text)
    | some (.inFile path) =>
      match ← sh.look path with
      | .file text => pure (some text)
      | _ => pure none
    | none => pure none
  return text.bind fun text => (Json.read text).toOption

/-- Documents outside by their addresses: those `known` and those that are found from the
addresses given, as many as are allowed. -/
def gatherOutside (sh : Shell m) : Nat → Table Value → List String → m (Table Value)
  | 0, known, _ => return known
  | _, known, [] => return known
  | steps + 1, known, address :: rest => do
    if (known.get? address).isSome then gatherOutside sh steps known rest
    else
      match ← valueOutside sh address with
      | some v => gatherOutside sh steps (known.put address v) (Json.addressesIn address v ++ rest)
      | none => gatherOutside sh steps known rest

/-- Document of a value, its references replaced. -/
def withReferences (outside : Table Value) (v : Value) : Except Fault Document :=
  (Json.resolveReferences outside.get? v).mapError fun f =>
    match f with
    | .dangling => .danglingReference
    | .endless => .endlessReference
    | .authority f => .authority f
    | .tooDeep => .document .tooDeep

/-- Document of a source. -/
def document (sh : Shell m) : Loader m := fun source => do
  match ← valueOf sh source with
  | .error f => return .error f
  | .ok v =>
    let addresses := (Json.addressesIn "" v).filter fun a => (Json.outside? a).isSome
    return withReferences (← gatherOutside sh maxOutside [] addresses) v

/-- Value that a document can be written as: it is no reference and nothing holds itself. -/
def plainValue (d : Document) : Except Fault Value :=
  if d.isReference then .error .wrongKind
  else if d.loops.isEmpty then .ok d.root
  else .error .holdsItself

end Loading

end ClientGen
