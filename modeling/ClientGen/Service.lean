import ClientGen.Table
import ClientGen.Text.Letter

/-!
# Services

The description of a service as the rest of the library reads it: named types (enums,
models, unions) and resources with their operations. The types are closed: an operation
has one of seven verbs, a parameter one of three locations. Every list is in declared
order.
-/
namespace ClientGen

open ClientGen.Text

/-! ## 1. Vocabulary -/

/-- Verb of an HTTP request. -/
inductive Verb where
  | get | post | put | patch | delete | head | options
  deriving DecidableEq, Repr

namespace Verb

/-- All verbs, in the order of the client's dispatch table. -/
def all : List Verb := [.get, .post, .put, .patch, .delete, .head, .options]

/-- Verb as written in requests. -/
def text : Verb → String
  | .get => "GET"
  | .post => "POST"
  | .put => "PUT"
  | .patch => "PATCH"
  | .delete => "DELETE"
  | .head => "HEAD"
  | .options => "OPTIONS"

/-- Verb in small letters, as it starts a method name. -/
def word : Verb → String
  | .get => "get"
  | .post => "post"
  | .put => "put"
  | .patch => "patch"
  | .delete => "delete"
  | .head => "head"
  | .options => "options"

/-- Verb of its text. -/
def ofText? (s : String) : Option Verb := all.find? (·.text = s)

/-- Tells whether a request with this verb has a body. -/
def hasBody : Verb → Bool
  | .post | .put | .patch => true
  | _ => false

end Verb

/-- Place of a request that carries a parameter. -/
inductive Location where
  | path | query | form
  deriving DecidableEq, Repr

namespace Location

/-- Location as written in a description. -/
def text : Location → String
  | .path => "path"
  | .query => "query"
  | .form => "form"

/-- Location of its text. -/
def ofText? (s : String) : Option Location := [path, query, form].find? (·.text = s)

end Location

/-! ## 2. Named types -/

/-- Header sent with every request. -/
structure Header where
  name : String
  value : String
  deriving DecidableEq, Repr

/-- One value of an enum. -/
structure EnumValue where
  name : String
  description : Option String := none
  deriving DecidableEq, Repr

/-- A type with finitely many named values. -/
structure EnumType where
  name : String
  values : List EnumValue := []
  description : Option String := none
  deriving DecidableEq, Repr

/-- Field of a model; `type` is a type notation. -/
structure Field where
  name : String
  type : String
  required : Bool := true
  default : Option String := none
  description : Option String := none
  deriving DecidableEq, Repr

/-- A type with named fields. -/
structure ModelType where
  name : String
  fields : List Field := []
  description : Option String := none
  deriving DecidableEq, Repr

/-- A type whose values belong to one of several types; the first that fits wins. -/
structure UnionType where
  name : String
  types : List String := []
  description : Option String := none
  deriving DecidableEq, Repr

/-! ## 3. Operations -/

/-- Parameter of an operation; `type` is a type notation. -/
structure Parameter where
  name : String
  type : String := "string"
  location : Location := .query
  required : Bool := true
  default : Option String := none
  description : Option String := none
  deriving DecidableEq, Repr

/-- Declared answer of an operation; `type` is a type notation. -/
structure Response where
  code : Int
  type : String := "unit"
  optional : Bool := false
  deriving DecidableEq, Repr

namespace Response

/-- Success codes are those from 200 to 299. -/
def isSuccess (r : Response) : Bool := 200 ≤ r.code && r.code < 300

/-- Tells whether the answer has no body. -/
def isUnit (r : Response) : Bool := r.type = "unit"

/-- Tells whether the answer is a success whose body may be missing. -/
def isOption (r : Response) : Bool := r.isSuccess && r.optional && !r.isUnit

/-- Tells whether the answer says that nothing was found. -/
def isNotFound (r : Response) : Bool := r.code = 404

end Response

/-- Operation of a resource; `body` is a type notation. -/
structure Operation where
  verb : Verb
  path : String
  body : Option String := none
  parameters : List Parameter := []
  responses : List Response := []
  description : Option String := none
  deriving DecidableEq, Repr

/-- Verb and path, which name an operation in messages. -/
def Operation.label (o : Operation) : String := o.verb.text ++ " " ++ o.path

/-- Resource: operations under a common path. -/
structure Resource where
  type : String
  plural : String
  path : Option String := none
  operations : List Operation := []
  description : Option String := none
  deriving DecidableEq, Repr

/-- Path of a resource; without one it is the plural after a slash. -/
def Resource.basePath (r : Resource) : String := r.path.getD ("/" ++ r.plural)

/-- A whole service. -/
structure Service where
  name : String
  namespace_ : Option String := none
  baseUrl : Option String := none
  description : Option String := none
  headers : List Header := []
  enums : List EnumType := []
  models : List ModelType := []
  unions : List UnionType := []
  resources : List Resource := []
  deriving DecidableEq, Repr

/-- Resources by plural, letter case aside. -/
def Service.sortedResources (s : Service) : List Resource :=
  sortBy (fun a b => !decide (toLower b.plural < toLower a.plural)) s.resources

end ClientGen
