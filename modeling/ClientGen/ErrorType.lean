import ClientGen.ClientMethod

/-!
# Error types

Each shape of an error body gives one error class, shared by all operations. The class
carries the answer and reads its body when it is first asked for. Two shapes that give
the same class name are refused.
-/
namespace ClientGen

open ClientGen.Text

namespace ErrorType

/-! ## 1. Collecting -/

/-- Error bodies found so far: class name, reference, and the notation that gave it. -/
abbrev Found := Table (TypeRef × String)

/-- Adds the error bodies of an endpoint's responses. -/
def addResponses (r : Registry) (e : Endpoint) (found : Found) :
    List Response → Except DescriptionFault Found
  | [] => .ok found
  | a :: rest =>
    if a.isSuccess || a.isUnit then addResponses r e found rest
    else do
      let ref ← e.resolve r a.type (some a.code)
      match Table.get? found ref.errorClass with
      | none => addResponses r e (Table.put found ref.errorClass (ref, a.type)) rest
      | some (other, otherType) =>
        if other = ref then addResponses r e found rest
        else throw (e.fault (.errorClassShared ref.errorClass a.type otherType) (some a.code))

/-- Adds the error bodies of endpoints. -/
def addEndpoints (r : Registry) (found : Found) : List Endpoint → Except DescriptionFault Found
  | [] => .ok found
  | e :: es => do addEndpoints r (← addResponses r e found e.operation.responses) es

/-- Adds the error bodies of resources. -/
def addResources (r : Registry) (found : Found) : List Resource → Except DescriptionFault Found
  | [] => .ok found
  | x :: xs => do addResources r (← addEndpoints r found (← Endpoint.ofResource r x)) xs

/-- Error classes of a service with their bodies, by name. -/
def all (r : Registry) (s : Service) : Except DescriptionFault (List (String × TypeRef)) := do
  let found ← addResources r [] s.resources
  return sortBy (fun a b => !decide (b.1 < a.1)) (found.map fun e => (e.1, e.2.1))

/-! ## 2. Classes -/

/-- Attributes of an exception, which the view of a body may not hide. -/
def exceptionAttributes : List String :=
  ["add_note", "args", "message", "response", "with_traceback"]

/-- Error for answers without a described body. -/
def failedRequestClass : Source.Class :=
  Source.Class.addFunction
    { name := DispatchTable.failedRequest
      inherits := ["Exception"]
      description := some "Неожиданный ответ сервера или ответ без описанного тела" }
    { name := "__init__"
      parameters :=
        [{ name := "self" }, { name := "response_code", type := some (.name "int") },
         { name := "message", type := some (.name "str") }]
      code := some (.ofCode (unlines
        ["self.response_code = response_code", "self.message = message",
         "super().__init__(f\"HTTP \x7bresponse_code\x7d: \x7bmessage\x7d\")"])) }

/-- Error for bodies that do not fit their type. -/
def invalidJsonClass : Source.Class :=
  { name := "InvalidJson"
    inherits := [DispatchTable.failedRequest]
    description := some "Тело ответа не соответствует описанному типу" }

/-- Name of the function that reads the body. -/
def viewName (ref : TypeRef) : String :=
  if exceptionAttributes.contains ref.errorVariable then ref.errorVariable ++ "_body"
  else ref.errorVariable

/-- Class of an error body. -/
def classOf (r : Registry) (name : String) (ref : TypeRef) : Source.Class :=
  let s := r.settings
  let datatype := (r.typeOf ref).text
  let init : Source.Function :=
    { name := "__init__"
      parameters :=
        [{ name := "self" }, { name := "response", type := some (.name s.responseClass) },
         { name := "message", type := some (.optional (.name "str")), default := some "None" }]
      code := some (.ofCode (unlines
        ["self.response = response", "self.message = message",
         "super().__init__(message or f\"\x7b" ++ s.statusOf "response" ++ "\x7d: \x7b"
           ++ s.bodyOf "response" ++ "\x7d\")"])) }
  let view : Source.Function :=
    { name := viewName ref
      parameters := [{ name := "self" }]
      response := datatype
      decorators := ["@functools.cached_property"]
      code := some (.ofCode
        ("return common.parse_json(\"" ++ datatype ++ "\", self.response, " ++ datatype ++ ")")) }
  (Source.Class.addFunction { name, inherits := ["Exception"] } init).addFunction view

/-- Classes of the errors module. -/
def classes (r : Registry) (s : Service) : Except DescriptionFault (List Source.Class) := do
  let types ← all r s
  return failedRequestClass :: invalidJsonClass :: types.map fun e => classOf r e.1 e.2

end ErrorType

end ClientGen
