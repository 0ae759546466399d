import ClientGen.Endpoint
import ClientGen.Source.Block

/-!
# Requests

What a method sends: a verb, a path with arguments in the place of placeholders, query
pairs, and a payload, which is a body or a form. A request is data; its text is the code
that sends it.
-/
namespace ClientGen

open ClientGen.Text ClientGen.Source

/-! ## 1. Paths -/

/-- Segment of a path: fixed text, or the value of an argument. -/
inductive PathSegment where
  | literal (text : String)
  | argument (argName : String)
  deriving DecidableEq, Repr

/-- Segment inside an interpolated text. -/
def PathSegment.text : PathSegment → String
  | .literal s => s
  | .argument a => "\x7bcommon.quote_path(" ++ a ++ ")\x7d"

/-- Path of a request: one fixed text, or segments between slashes. -/
inductive PathExpr where
  | fixed (path : String)
  | interpolated (segments : List PathSegment)
  deriving DecidableEq, Repr

namespace PathExpr

/-- Text literal that denotes the path. -/
def text : PathExpr → String
  | .fixed path => "\"" ++ path ++ "\""
  | .interpolated segments => "f\"" ++ join "/" (segments.map (·.text)) ++ "\""

/-- Segment of an endpoint's path: a placeholder stands for its argument. -/
def segmentOf (e : Endpoint) (segment : String) : PathSegment :=
  match Endpoint.placeholder? segment with
  | none => .literal segment
  | some name =>
    match e.pathParameters.find? (·.name = name) with
    | some a => .argument a.argName
    | none => .literal segment

/-- Path of an endpoint's request. -/
def ofEndpoint (e : Endpoint) : PathExpr :=
  if e.placeholders.isEmpty then .fixed e.operation.path
  else .interpolated ((Endpoint.segmentsOf e.operation.path).map (segmentOf e))

end PathExpr

/-! ## 2. Payloads and queries -/

/-- Form field: its name in the request, its type and its argument. -/
structure FormEntry where
  wireName : String
  type : String
  argName : String
  deriving DecidableEq, Repr

/-- Query parameter: its name in the request and its argument. -/
structure QueryEntry where
  wireName : String
  argName : String
  deriving DecidableEq, Repr

/-- What a request carries. -/
inductive Payload where
  | empty
  | body (type argName : String)
  | form (entries : List FormEntry)
  deriving DecidableEq, Repr

/-- A request. -/
structure Request where
  verb : Verb
  path : PathExpr
  payload : Payload
  query : List QueryEntry
  deriving DecidableEq, Repr

namespace Request

/-- Request of an endpoint. -/
def ofEndpoint (e : Endpoint) : Request :=
  { verb := e.operation.verb
    path := PathExpr.ofEndpoint e
    payload :=
      match e.body, e.formParameters with
      | some b, _ => .body b.type.type.text b.argName
      | none, [] => .empty
      | none, form => .form (form.map fun a => ⟨a.name, a.type.type.text, a.argName⟩)
    query := e.queryParameters.map fun a => ⟨a.name, a.argName⟩ }

/-! ## 3. Text -/

/-- Code that sets the payload. -/
def payloadText : Payload → String
  | .empty => ""
  | .body t a => "payload = common.to_json(" ++ t ++ ", " ++ a ++ ")"
  | .form entries =>
    "payload = \x7b\n" ++ indent (unlines (entries.map fun f =>
      "\"" ++ f.wireName ++ "\": common.to_json(" ++ f.type ++ ", " ++ f.argName ++ "),")) ++ "\n\x7d"

/-- Code that sets the query. -/
def queryText : List QueryEntry → String
  | [] => ""
  | entries =>
    "query_parameters = [\n" ++ indent (unlines (entries.map fun q =>
      "*common.query_pairs(\"" ++ q.wireName ++ "\", " ++ q.argName ++ "),")) ++ "\n]"

/-- Arguments of the call that sends the request. -/
def callArguments (q : Request) : List String :=
  ["\"" ++ q.verb.text ++ "\"", q.path.text]
    ++ (if q.payload = .empty then [] else ["body=payload"])
    ++ (if q.query.isEmpty then [] else ["query_parameters=query_parameters"])

/-- Code that sends a request and keeps the answer in a variable. -/
def text (q : Request) (variable_ : String) : String :=
  Block.joinTexts "\n\n"
    [payloadText q.payload, queryText q.query,
     variable_ ++ " = await self._client._execute_request(" ++ join ", " q.callArguments ++ ")"]

end Request

end ClientGen
