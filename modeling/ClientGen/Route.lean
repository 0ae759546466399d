import ClientGen.Endpoint
import ClientGen.Text.Blank

/-!
# Routes

The table of routes has one line for each operation: verb, path, and the handler with the
parameters that it takes from the request. Parameters that cannot be read from a request
are listed in a comment above the line. This file fixes

* routes and their handlers, no two of which share a name;
* the text of the table, in columns.
-/
namespace ClientGen

open ClientGen.Text

/-! ## 1. Routes -/

/-- A line of the table. -/
structure Route where
  verb : String
  url : String
  method : String
  params : List String := []
  comments : Option String := none
  deriving DecidableEq, Repr

namespace Route

/-- Call of the handler. -/
def handler (r : Route) : String := r.method ++ "(" ++ join ", " r.params ++ ")"

/-- Name of an endpoint's handler: package, controller and action. -/
def handlerName (r : Registry) (e : Endpoint) : String :=
  join "." ([r.settings.controllersPackage, pascalCase e.resource.plural, e.camelName].filter (· ≠ ""))

/-- Parameter of a handler with its type, and its default unless that is nothing. -/
def paramText (a : Argument) : String :=
  a.name ++ ": " ++ a.type.type.text ++
    (match a.default with
      | some d => if d = "None" then "" else " ?= " ++ d
      | none => "")

/-- Tells whether a parameter can be read from the request. -/
def isTaken (a : Argument) : Bool := a.location = some .path || a.ref.isBindable

/-- Comment on parameters that a handler does not take. -/
def commentText (e : Endpoint) : List Argument → Option String
  | [] => none
  | as => some (unlines (("# Additional parameters to " ++ e.operation.label) ::
      as.map fun a => "#   - " ++ a.name ++ ": " ++ a.type.type.text))

/-- Route of an endpoint. -/
def ofEndpoint (r : Registry) (e : Endpoint) : Route :=
  let candidates := e.pathParameters ++ e.queryParameters
  { verb := e.operation.verb.text
    url := e.operation.path
    method := handlerName r e
    params := (candidates.filter isTaken).map paramText
    comments := commentText e (candidates.filter fun a => !isTaken a) }

/-- Endpoints with their handlers' names, in the order of the table. -/
abbrev Handlers := List (String × Endpoint)

/-- Handlers of endpoints after those `before`; no two share a name. -/
def addEndpoints (r : Registry) (before : Handlers) :
    List Endpoint → Except DescriptionFault Handlers
  | [] => .ok before
  | e :: es =>
    let name := handlerName r e
    match before.find? (·.1 = name) with
    | some (_, other) =>
      .error (e.fault (.handlerShared name other.operation.label other.resource.plural) none)
    | none => addEndpoints r (before ++ [(name, e)]) es

/-- Handlers of resources after those `before`. -/
def addResources (r : Registry) (before : Handlers) :
    List Resource → Except DescriptionFault Handlers
  | [] => .ok before
  | x :: xs => do addResources r (← addEndpoints r before (← Endpoint.ofResource r x)) xs

/-- Routes of a service, resource by resource in sorted order. -/
def all (r : Registry) (s : Service) : Except DescriptionFault (List Route) := do
  return (← addResources r [] s.sortedResources).map fun h => ofEndpoint r h.2

/-! ## 2. Text -/

/-- Text filled up with spaces to a width. -/
def pad (width : Nat) (s : String) : String :=
  s ++ String.ofList (List.replicate (width - s.toList.length) ' ')

/-- Greatest number of characters. -/
def widest (texts : List String) : Nat := texts.foldl (fun w s => max w s.toList.length) 0

/-- Lines of a route in columns of given widths. -/
def linesOf (verbWidth urlWidth : Nat) (r : Route) : List String :=
  (r.comments.filter (· ≠ "")).toList ++
    [trimEnd (pad verbWidth r.verb ++ "  " ++ pad urlWidth r.url ++ "  " ++ r.handler)]

/-- Text of the table; a table without routes has none. -/
def table (routes : List Route) : String :=
  if routes.isEmpty then ""
  else unlines (routes.flatMap (linesOf (widest (routes.map (·.verb))) (widest (routes.map (·.url)))))
    ++ "\n"

end Route

end ClientGen
