import ClientGen.Registry
import ClientGen.Text.Identifier

/-!
# Endpoints

An endpoint is an operation of a resource made ready for generation: its parameters have
types, literals for their defaults, and names that fit into generated code. This file
fixes

* the order of parameters: those of the path in path order, then the others as declared;
* the names: of arguments, which keep clear of the names a method body uses, and of
  methods, which follow from the verb and the path relative to the resource;
* what is refused: parameters that repeat or do not fit the path, bodies and form
  parameters under verbs without a body, arguments or methods that share a name.
-/
namespace ClientGen

open ClientGen.Text

/-! ## 1. Arguments -/

/-- Names that the body of a generated method uses. -/
def reservedNames : List String :=
  ["common", "datetime", "decimal", "errors", "interfaces", "models", "payload",
   "query_parameters", "r", "self", "uuid"]

/-- Name of the argument that carries a parameter. -/
def argumentName (name : String) : String :=
  let base := safeName (snakeCase name)
  if reservedNames.contains base then base ++ "_" else base

/-- Parameter or body of an endpoint; a body has no location. -/
structure Argument where
  name : String
  argName : String
  location : Option Location
  ref : TypeRef
  type : ResolvedType
  default : Option String := none
  description : Option String := none

/-- Tells whether an argument is the body. -/
def Argument.isBody (a : Argument) : Bool := a.location.isNone

/-- Operation made ready for generation. -/
structure Endpoint where
  resource : Resource
  operation : Operation
  placeholders : List String
  body : Option Argument
  parameters : List Argument
  snakeName : String

namespace Endpoint

/-! ## 2. Parts -/

/-- Parameters with a location. -/
def parametersIn (e : Endpoint) (l : Location) : List Argument :=
  e.parameters.filter (·.location = some l)

/-- Parameters of the path, in path order. -/
def pathParameters (e : Endpoint) : List Argument := e.parametersIn .path

/-- Parameters of the query, as declared. -/
def queryParameters (e : Endpoint) : List Argument := e.parametersIn .query

/-- Parameters of the form, as declared. -/
def formParameters (e : Endpoint) : List Argument := e.parametersIn .form

/-- Arguments of the method: those of the path, the body, the others. -/
def arguments (e : Endpoint) : List Argument :=
  e.pathParameters ++ e.body.toList ++ e.parameters.filter (·.location ≠ some .path)

/-- Name of the method. -/
def methodName (e : Endpoint) : String := safeName e.snakeName

/-- Name of the handler's method. -/
def camelName (e : Endpoint) : String := camelCase e.snakeName

/-! ## 3. Places of faults -/

/-- Place of an operation, with a response code or without. -/
def placeOf (resource : Resource) (operation : Operation) (code : Option Int) : Place :=
  { resource := .text resource.plural, operation := some operation.label, code }

/-- Fault of an operation. -/
def faultOf (resource : Resource) (operation : Operation) (cause : Cause)
    (code : Option Int) : DescriptionFault :=
  ⟨cause, placeOf resource operation code⟩

/-- Fault of the endpoint. -/
def fault (e : Endpoint) (cause : Cause) (code : Option Int) : DescriptionFault :=
  faultOf e.resource e.operation cause code

/-- Reference of a notation that the endpoint uses. -/
def resolve (e : Endpoint) (r : Registry) (s : String) (code : Option Int) :
    Except DescriptionFault TypeRef :=
  (r.parse s).mapError (e.fault · code)

/-! ## 4. Path and names -/

/-- Segments of a path, between its slashes. -/
def segmentsOf (path : String) : List String := pieces '/' path

/-- Name of the placeholder that a segment is: what follows a colon at its front. -/
def placeholder? (segment : String) : Option String :=
  match segment.toList with
  | ':' :: rest => some (String.ofList rest)
  | _ => none

/-- Placeholders of a path, in order. -/
def placeholdersOf (path : String) : List String := (segmentsOf path).filterMap placeholder?

/-- Path without the resource's part, where it starts with it. -/
def relativePath (resource : Resource) (path : String) : String :=
  let base := String.ofList (dropEndWhile (· = '/') resource.basePath.toList)
  if base ≠ "" && !startsWith base "/:" && (path = base || startsWith path (base ++ "/")) then
    dropStart base.toList.length path
  else path

/-- Name of an operation: the verb, the literal segments joined by "and", then "by" and
the placeholders joined by "and". -/
def nameOf (verb : Verb) (path : String) : String :=
  let segments := (segmentsOf path).filter (· ≠ "")
  let literal := (segments.filter fun s => (placeholder? s).isNone).map snakeCase
  let named := (segments.filterMap placeholder?).map snakeCase
  join "_" (verb.word :: ((if literal.isEmpty then [] else [join "_and_" literal]) ++
    (if named.isEmpty then [] else ["by", join "_and_" named])))

/-! ## 5. Building -/

/-- Argument of the body, named after its type. -/
def bodyOf (r : Registry) (s : String) : Except Cause Argument := do
  let ref ← r.parse s
  let base := snakeCase ref.shortName
  let name := match ref with
    | .list _ => pluralize base
    | _ => base
  return { name, argName := argumentName name, location := none, ref, type := r.resolve true ref }

/-- Reference and default literal of a parameter at a location. A path parameter must be
given, so it has no default; another one that need not be given may be missing. -/
def settle (r : Registry) (p : Parameter) (l : Location) (ref : TypeRef) :
    Except Cause (TypeRef × Option String) :=
  if l = .path then
    if p.required then .ok (ref, none) else .error (.pathParameterOptional p.name)
  else match p.default with
    | some raw => (r.defaultLiteral raw true ref).map fun s => (ref, some s)
    | none => .ok (if p.required then (ref, none) else (ref.optional, some "None"))

/-- Argument of a parameter at a location. -/
def argumentOf (r : Registry) (p : Parameter) (l : Location) : Except Cause Argument := do
  let (ref, default) ← settle r p l (← r.parse p.type)
  return { name := p.name, argName := argumentName p.name, location := some l, ref,
           type := r.resolve true ref, default, description := p.description }

/-- Declared parameter of a name, or a text parameter when none is declared. -/
def declaredOr (ps : List Parameter) (name : String) : Parameter :=
  (ps.find? (·.name = name)).getD { name }

/-- Parameters of an operation in their final order. -/
def parametersOf (r : Registry) (o : Operation) (placeholders : List String) :
    Except Cause (List Argument) := do
  if let some name := repeated? (o.parameters.map (·.name)) then throw (.parameterTwice name)
  let stray := o.parameters.find? fun p => p.location = .path && !placeholders.contains p.name
  if let some p := stray then throw (.parameterNotInPath p.name)
  let path ← placeholders.mapM fun name => argumentOf r (declaredOr o.parameters name) .path
  let rest ← (o.parameters.filter fun p => !placeholders.contains p.name).mapM fun p =>
    argumentOf r p p.location
  return path ++ rest

/-- Checks that a verb takes what the endpoint sends. -/
def checkVerb (e : Endpoint) : Except Cause Unit :=
  let form := e.formParameters
  if e.body.isSome && !form.isEmpty then .error .formWithBody
  else if e.operation.verb.hasBody then .ok ()
  else if e.body.isSome then .error (.bodyRefused e.operation.verb)
  else if !form.isEmpty then .error (.formRefused e.operation.verb (form.map (·.name)))
  else .ok ()

/-- Checks that no two arguments share a name. -/
def checkArguments (e : Endpoint) : Except Cause Unit :=
  match repeated? (e.arguments.map (·.argName)) with
  | some name => .error (.argumentTwice name)
  | none => .ok ()

/-- Endpoint of an operation, or the cause that refuses it. -/
def build (r : Registry) (resource : Resource) (o : Operation) : Except Cause Endpoint := do
  let placeholders := placeholdersOf o.path
  if let some name := repeated? placeholders then throw (.placeholderTwice name)
  let body ← o.body.mapM (bodyOf r)
  let parameters ← parametersOf r o placeholders
  let e : Endpoint :=
    { resource, operation := o, placeholders, body, parameters,
      snakeName := nameOf o.verb (relativePath resource o.path) }
  checkVerb e
  checkArguments e
  return e

/-- Endpoint of an operation. -/
def ofOperation (r : Registry) (resource : Resource) (o : Operation) :
    Except DescriptionFault Endpoint :=
  (build r resource o).mapError (faultOf resource o · none)

/-- Endpoints of operations after those `before`; no two methods share a name. -/
def ofOperations (r : Registry) (resource : Resource) (before : List Endpoint) :
    List Operation → Except DescriptionFault (List Endpoint)
  | [] => .ok before
  | o :: os => do
    let e ← ofOperation r resource o
    match before.find? (·.methodName = e.methodName) with
    | some other => throw (e.fault (.methodNameShared e.methodName other.operation.label) none)
    | none => ofOperations r resource (before ++ [e]) os

/-- Endpoints of a resource, in declared order. -/
def ofResource (r : Registry) (resource : Resource) : Except DescriptionFault (List Endpoint) :=
  ofOperations r resource [] resource.operations

end Endpoint

end ClientGen
