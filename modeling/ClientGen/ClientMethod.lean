import ClientGen.Dispatch
import ClientGen.Request
import ClientGen.Source.Class

/-!
# Client methods

A client method belongs to one endpoint: it sends a request and dispatches the answer.
The interface and the implementation are two views of one method. This file fixes

* the answer type, which admits every value that some branch returns;
* the code that dispatches an answer, one statement a branch;
* the classes: an interface and an implementation for each resource.
-/
namespace ClientGen

open ClientGen.Text

/-! ## 1. Methods -/

/-- A method of the client. -/
structure ClientMethod where
  name : String
  arguments : List Source.Parameter
  returnType : TypeExpr
  request : Request
  dispatch : DispatchTable
  comments : String
  errors : List Source.RaisedError
  settings : Settings

namespace ClientMethod

/-- Types of the bodies of successes, each once, in order. -/
def successTypes (t : DispatchTable) : List String :=
  t.branches.foldl (fun ts b =>
    match b.successType? with
    | some d => if ts.contains d then ts else ts ++ [d]
    | none => ts) []

/-- Type of what a method returns: optional when some branch returns nothing. -/
def returnTypeOf (t : DispatchTable) : TypeExpr :=
  match successTypes t with
  | [] => .name "None"
  | d :: ds =>
    let result : TypeExpr := if ds.isEmpty then .name d else .union ((d :: ds).map .name)
    if t.branches.any (·.isSuccessUnit) || t.hasAbsent then .optional result else result

/-- Codes separated by commas. -/
def codesText (codes : List Int) : String := join ", " (codes.map Number.integerText)

/-- Errors that a method's documentation lists. -/
def documentedErrors (s : Settings) (t : DispatchTable) : List Source.RaisedError :=
  t.branches.filterMap (fun b =>
    match b with
    | .failure c _ e => some ⟨e, "HTTP " ++ Number.integerText c⟩
    | _ => none) ++
  [⟨DispatchTable.errorName s DispatchTable.failedRequest,
    "unexpected response code, expected: " ++ codesText t.expectedCodes⟩]

/-- Parameter of a method for an argument of its endpoint. -/
def parameterOf (a : Argument) : Source.Parameter :=
  { name := a.argName, type := some a.type.type, default := a.default, description := a.description }

/-- Checks that the codes of a table can be written. -/
def checkCodes (t : DispatchTable) : Except Fault Unit :=
  if t.expectedCodes.any Number.isLong then .error .longInteger else .ok ()

/-- Method of an endpoint. -/
def ofEndpoint (r : Registry) (e : Endpoint) : Traced Fault ClientMethod := do
  if e.operation.verb = .patch && !r.settings.supportsPatch then
    Traced.warn (.patchUnsupported e.operation.label r.settings.name)
  let dispatch ← (DispatchTable.ofEndpoint r e).mapError DescriptionFault.raised
  Traced.lift (checkCodes dispatch)
  return {
    name := e.methodName
    arguments := e.arguments.map parameterOf
    returnType := returnTypeOf dispatch
    request := Request.ofEndpoint e
    dispatch
    comments := (e.operation.description.filter (· ≠ "")).getD e.operation.label
    errors := documentedErrors r.settings dispatch
    settings := r.settings }

/-! ## 2. Code that dispatches an answer -/

/-- Statement of an outcome. -/
def statementOf (s : Settings) : Outcome → String
  | .success _ d => "return common.parse_json(\"" ++ d ++ "\", " ++ s.responseVariable ++ ", " ++ d ++ ")"
  | .successUnit _ => "return None"
  | .successAbsent v => "return " ++ v
  | .failure _ none e => "raise " ++ e ++ "(" ++ s.status ++ ", " ++ s.body ++ ")"
  | .failure _ (some _) e => "raise " ++ e ++ "(" ++ s.responseVariable ++ ")"
  | .unexpected => ""

/-- Statement for codes without a branch. -/
def fallbackStatement (s : Settings) (codes : List Int) : String :=
  "raise " ++ DispatchTable.errorName s DispatchTable.failedRequest ++ "(" ++ s.status
    ++ ", f\"Unsupported response code[\x7b" ++ s.status ++ "\x7d]. Expected: " ++ codesText codes ++ "\")"

/-- Test of a code with the statement that it guards. -/
def branchText (s : Settings) (b : Outcome) : String :=
  match b.code? with
  | some c =>
    Source.Block.nested ("if " ++ s.status ++ " == " ++ Number.integerText c ++ ":") (statementOf s b)
  | none => ""

/-- Code that dispatches an answer. -/
def responseText (s : Settings) (t : DispatchTable) : String :=
  Source.Block.stack (t.branches.map (branchText s) ++ [fallbackStatement s t.expectedCodes])

/-- Block that sends the request. -/
def call (m : ClientMethod) : Source.Block :=
  .ofCode (m.request.text m.settings.responseVariable)

/-- Block that dispatches the answer. -/
def response (m : ClientMethod) : Source.Block := .ofCode (responseText m.settings m.dispatch)

/-! ## 3. The two views -/

/-- What both views share: everything but decorators and code. -/
def function (m : ClientMethod) (decorators : List String) (code : Option Source.Block) :
    Source.Function :=
  { name := m.name
    parameters := { name := "self" } :: m.arguments
    response := m.returnType.text
    isAsync := true
    decorators
    description := some m.comments
    errors := m.errors
    code }

/-- Method without code, which an implementation must provide. -/
def interface (m : ClientMethod) : Source.Function :=
  m.function ["@abc.abstractmethod"] none

/-- Method with its code. -/
def implementation (m : ClientMethod) : Source.Function :=
  m.function [] (some (.ofCode (Source.Block.stack [m.call.text, m.response.text])))

/-! ## 4. Classes of a resource -/

/-- Public attributes of the client, which no accessor may hide. -/
def clientAttributes : List String :=
  ["close", "headers", "initialize", "set_auth_token", "update_headers", "with_headers"]

/-- Name of a resource's interface. -/
def traitName (resource : Resource) : String := pascalCase resource.plural

/-- Name of a resource's implementation. -/
def objectName (resource : Resource) : String := traitName resource ++ "Endpoints"

/-- Attribute under which the client holds a resource. -/
def accessorName (resource : Resource) : String :=
  let name := safeName (snakeCase resource.plural)
  if clientAttributes.contains name then name ++ "_" else name

/-- Methods of a resource, in declared order. -/
def ofResource (r : Registry) (resource : Resource) : Traced Fault (List ClientMethod) := do
  let es ← Traced.lift ((Endpoint.ofResource r resource).mapError DescriptionFault.raised)
  es.mapM (ofEndpoint r)

/-- Interface of a resource with given methods. -/
def traitOf (resource : Resource) (ms : List ClientMethod) : Source.Class :=
  { name := traitName resource
    inherits := ["abc.ABC"]
    description := resource.description
    functions := Table.ofEntries (ms.map fun m => (m.name, m.interface)) }

/-- Constructor of an implementation. -/
def objectConstructor : Source.Function :=
  { name := "__init__"
    parameters := [{ name := "self" }, { name := "client", type := some (.name "\"ApiClient\"") }]
    code := some (.ofCode "self._client = client") }

/-- Implementation of a resource with given methods. -/
def objectOf (resource : Resource) (ms : List ClientMethod) : Source.Class :=
  ms.foldl (fun c m => c.addFunction m.implementation)
    (Source.Class.addFunction
      { name := objectName resource, inherits := ["interfaces." ++ traitName resource] }
      objectConstructor)

/-- Interfaces of all resources, in sorted order. -/
def traits (r : Registry) (s : Service) : Traced Fault (List Source.Class) :=
  s.sortedResources.mapM fun resource => do return traitOf resource (← ofResource r resource)

/-- Implementations of all resources, in sorted order. -/
def objects (r : Registry) (s : Service) : Traced Fault (List Source.Class) :=
  s.sortedResources.mapM fun resource => do return objectOf resource (← ofResource r resource)

/-- Statement by which the client sets a resource's attribute. -/
def accessorText (resource : Resource) : String :=
  "self." ++ accessorName resource ++ ": \"" ++ objectName resource ++ "\" = " ++ objectName resource
    ++ "(self)"

/-- Statements for all resources, in sorted order. -/
def accessors (s : Service) : List String := s.sortedResources.map accessorText

end ClientMethod

end ClientGen
