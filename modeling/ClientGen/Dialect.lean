import ClientGen.Checked
import ClientGen.Fault
import ClientGen.Service

/-!
# Dialects

Settings of the generated client: the names under which its code refers to answers,
models, errors and controllers, the session call that sends each verb, and whether PATCH
is supported. A dialect is a named value of the settings.
-/
namespace ClientGen

open Check

/-- Settings of the generated client. -/
structure Settings where
  name : String
  responseClass : String := "common.Response"
  responseStatus : String := "status"
  responseBody : String := "body"
  responseVariable : String := "r"
  modelsNamespace : String := "models"
  errorsNamespace : String := "errors"
  controllersPackage : String := "controllers"
  dispatch : List (Verb × String) :=
    [(.get, "get"), (.post, "post"), (.put, "put"), (.patch, "patch"), (.delete, "delete"),
     (.head, "head"), (.options, "options")]
  supportsPatch : Bool := true
  deriving DecidableEq, Repr

namespace Settings

/-- Expression for the status of the answer held by a variable. -/
def statusOf (s : Settings) (variable_ : String) : String := variable_ ++ "." ++ s.responseStatus

/-- Expression for the body of the answer held by a variable. -/
def bodyOf (s : Settings) (variable_ : String) : String := variable_ ++ "." ++ s.responseBody

/-- Expression for the status of an answer inside a method. -/
def status (s : Settings) : String := s.statusOf s.responseVariable

/-- Expression for the body of an answer inside a method. -/
def body (s : Settings) : String := s.bodyOf s.responseVariable

/-- Calls by verb, each key a verb and each value a text. -/
def dispatchOf : Record → Checked (List (Verb × String))
  | [] => .good []
  | (k, v) :: rest =>
    let key : Checked Verb :=
      match Verb.ofText? k with
      | some verb => .good verb
      | none => .bad [⟨[.key k, .key "[key]"], .notListed⟩]
    (fun a b es => (a, b) :: es) <$> key <*> (text v).under (.key k) <*> dispatchOf rest

/-- Check for calls by verb. -/
def dispatch? : Value → Checked (List (Verb × String))
  | .record r => dispatchOf r
  | _ => .issue .dictType

/-- Shape of settings. -/
def ofRecord (r : Record) : Checked Settings :=
  let base : Settings := { name := "" }
  Settings.mk <$> entry r "name" text
    <*> entryOr r "response_class" base.responseClass text
    <*> entryOr r "response_status" base.responseStatus text
    <*> entryOr r "response_body" base.responseBody text
    <*> entryOr r "response_variable" base.responseVariable text
    <*> entryOr r "models_namespace" base.modelsNamespace text
    <*> entryOr r "errors_namespace" base.errorsNamespace text
    <*> entryOr r "controllers_package" base.controllersPackage text
    <*> entryOr r "dispatch" base.dispatch dispatch?
    <*> entryOr r "supports_patch" base.supportsPatch truth

end Settings

namespace Dialect

/-- The full dialect. -/
def aiohttp : Settings := { name := "aiohttp" }

/-- The dialect without PATCH. -/
def aiohttpCompat : Settings := { name := "aiohttp-compat", supportsPatch := false }

/-- All dialects, by name. -/
def all : List Settings := [aiohttp, aiohttpCompat]

/-- Settings of a dialect. -/
def get (name : String) : Except Fault Settings :=
  match all.find? (·.name = name) with
  | some s => .ok s
  | none => .error (.unknownDialect name)

end Dialect

/-- Settings as given with a service: nothing for the full dialect, a dialect's name, or
a record. -/
def Settings.ofValue : Value → Except Fault Settings
  | .null => .ok Dialect.aiohttp
  | .text name => Dialect.get name
  | .record r =>
    match (Settings.ofRecord r).result "GeneratorSettings" with
    | .ok s => .ok s
    | .error f => .error (.record f)
  | _ => .error .wrongKind

end ClientGen
