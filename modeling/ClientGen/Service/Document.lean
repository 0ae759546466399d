import ClientGen.Fault
import ClientGen.Service.Shape
import ClientGen.Text.Blank
import ClientGen.Text.Plural

/-!
# Reading a service description

A description is a record with sections for headers, enums, models, unions and
resources. A section is a record keyed by name or a list of named records; much may be
left out, and the reader fills it in:

* the plural of a resource and its path follow from its name;
* a path of an operation is the resource's path followed by its own;
* a parameter without a location goes into the path if a placeholder has its name, else
  into the form of a verb with a body, else into the query;
* a not-found answer without a body makes the first success with a body optional.

Faults of the description are located; a value that lacks the part asked of it stops the
reader with a fault of its own.
-/
namespace ClientGen

open ClientGen.Text ClientGen.Number

/-! ## 1. Parts of values -/

/-- What stops the reader before the cause is put into words. -/
inductive ReadingFault where
  | described (fault : DescriptionFault)
  | record (fault : RecordFault)
  | missingKey (key : String)
  | value (cause : ValueCause)
  | wrongKind (fault : KindFault)
  | noSuchPart
  deriving DecidableEq, Repr

/-- Fault of a run that a reader's fault becomes. A place that cannot be shown is itself a
value that means nothing. -/
def ReadingFault.fault : ReadingFault → Fault
  | .described f =>
    .description (if f.place.hasLongInteger then ⟨.invalidValue .longInteger, {}⟩ else f)
  | .record f => .description ⟨.invalidRecord f, {}⟩
  | .missingKey k => .description ⟨.missingKey k, {}⟩
  | .value c => .description ⟨.invalidValue c, {}⟩
  | .wrongKind f => .description ⟨.invalidKind f, {}⟩
  | .noSuchPart => .noSuchPart

/-- Reading of parts of a document. -/
abbrev Reading := ReaderT Document (Except ReadingFault)

namespace Reading

/-- Stops at a value that cannot be used as it is needed. -/
def unfit (use : Use) (v : Value) : Reading α := throw (.wrongKind ⟨use, v.kind⟩)

/-- Part of the document as it is read: what holds itself is opened. -/
def part (v : Value) : Reading Value := fun d => .ok (d.part v)

/-- Entry that must be there, of a value that must be a record. -/
def member (v : Value) (key : String) : Reading Value :=
  match v with
  | .record r =>
    match Table.get? r key with
    | some w => part w
    | none => throw (.missingKey key)
  | v => unfit .record v

/-- Entry or a value for its absence; only records can be asked. -/
def memberOr (v : Value) (key : String) (default : Value) : Reading Value :=
  match v with
  | .record r => part ((Table.get? r key).getD default)
  | _ => throw .noSuchPart

/-- Items of a value: of a list its items, of a text its characters, of a record its
keys. -/
def itemsOf : Value → Reading (List Value)
  | .list items => items.mapM part
  | .text s => return s.toList.map fun c => .text (String.singleton c)
  | .record r => return (Table.names r).map .text
  | v => unfit .items v

/-- Entries of a record. -/
def entriesOf (r : Record) : Reading Record := r.mapM fun e => do return (e.1, ← part e.2)

/-- Value as text, where it is given at all. -/
def asText (v : Value) : Reading Value :=
  match v with
  | .null => return .null
  | .bool b => return .text (if b then "true" else "false")
  | v => fun d => if v.hasLongInteger then .error (.value .longInteger) else .ok (.text (d.display v))

/-- Outcome of a check. -/
def check (title : String) (c : Checked α) : Reading α :=
  match c.result title with
  | .ok a => return a
  | .error f => throw (.record f)

/-- Entries of a section with a named record added; a name already there keeps its
place. -/
def putNamed (name spec : Value) : List (Value × Value) → List (Value × Value)
  | [] => [(name, spec)]
  | (k, v) :: rest =>
    if k.sameKey name then (k, spec) :: rest else (k, v) :: putNamed name spec rest

/-- Entries of a section written as a list of named records. -/
def namedItems (entries : List (Value × Value)) : List Value → Reading (List (Value × Value))
  | [] => return entries
  | item :: rest => do
    let name ← member item "name"
    if name.canBeKey then namedItems (putNamed name item entries) rest
    else unfit .key name

/-- Entries of a section of a description. -/
def section_ (title : String) : Value → Reading (List (Value × Value))
  | .null => return []
  | .list items => do namedItems [] (← items.mapM part)
  | .record r => do return (← entriesOf r).map fun e => (.text e.1, e.2)
  | _ => throw (.described ⟨.sectionNotARecord title, {}⟩)

/-! ## 2. Headers and named types -/

/-- Header of a name and a value. -/
def header (name value : Value) : Reading Header := do
  check "Header" (Header.ofRecord [("name", name), ("value", ← asText value)])

/-- Headers section: a record of values or a list of records. -/
def headers (v : Value) : Reading (List Header) :=
  if !v.isGiven then return []
  else match v with
    | .record r => do (← entriesOf r).mapM fun e => header (.text e.1) e.2
    | v => do (← itemsOf v).mapM fun h => do header (← member h "name") (← member h "value")

/-- Value of an enum: a name or a record. -/
def enumValue : Value → Reading EnumValue
  | .text s => return { name := s }
  | .record r => check "EnumValue" (EnumValue.ofRecord r)
  | v => unfit .enumFields v

/-- Entry of the enums section. -/
def enumType (name spec : Value) : Reading EnumType := do
  let values ← (← itemsOf (← memberOr spec "values" (.list []))).mapM enumValue
  check "EnumType"
    (EnumType.around [("name", name), ("description", ← memberOr spec "description" .null)]
      (.good values))

/-- Field of a model. -/
def field (f : Value) : Reading Field := do
  check "Field" (Field.ofRecord
    [("name", ← member f "name"), ("type", ← member f "type"),
     ("required", ← memberOr f "required" (.bool true)),
     ("default", ← asText (← memberOr f "default" .null)),
     ("description", ← memberOr f "description" .null)])

/-- Entry of the models section. -/
def modelType (name spec : Value) : Reading ModelType := do
  let fields ← (← itemsOf (← memberOr spec "fields" (.list []))).mapM field
  check "ModelType"
    (ModelType.around [("name", name), ("description", ← memberOr spec "description" .null)]
      (.good fields))

/-- Variant of a union: a notation or a record with one. -/
def variant : Value → Reading Value
  | .record r => member (.record r) "type"
  | v => return v

/-- Entry of the unions section. -/
def unionType (name spec : Value) : Reading UnionType := do
  let types ← (← itemsOf (← memberOr spec "types" (.list []))).mapM variant
  check "UnionType" (UnionType.ofRecord
    [("name", name), ("types", .list types),
     ("description", ← memberOr spec "description" .null)])

/-! ## 3. Operations -/

/-- Placeholder that a path segment holds: what follows its first colon. -/
def placeholderIn (segment : List Char) : Option String :=
  match segment.dropWhile (· ≠ ':') with
  | _ :: c :: cs => some (String.ofList (c :: cs))
  | _ => none

/-- Placeholders of a path, wherever a colon stands in a segment. -/
def placeholdersIn (path : String) : List String :=
  (splitOn '/' path.toList).filterMap placeholderIn

/-- Location of a parameter that names none. -/
def inferredLocation (verb : Verb) (placeholders : List String) (name : Value) : Location :=
  let inPath : Bool := match name with
    | .text s => placeholders.contains s
    | _ => false
  if inPath then .path else if verb.hasBody then .form else .query

/-- Location of a parameter. -/
def location (spec : Value) (verb : Verb) (placeholders : List String) : Reading Location := do
  match ← memberOr spec "location" .null with
  | .null =>
    let name ← member spec "name"
    if name.canBeKey then return inferredLocation verb placeholders name
    else unfit .key name
  | .text s =>
    match Location.ofText? (toLower s) with
    | some l => return l
    | none => throw (.value (.notALocation (toLower s)))
  | _ => throw .noSuchPart

/-- Parameter of an operation. -/
def parameter (verb : Verb) (placeholders : List String) (spec : Value) : Reading Parameter := do
  let location ← location spec verb placeholders
  check "Parameter" (Parameter.ofRecord
    [("name", ← member spec "name"), ("type", ← memberOr spec "type" (.text "string")),
     ("location", .text location.text),
     ("required", ← memberOr spec "required" (.bool true)),
     ("default", ← asText (← memberOr spec "default" .null)),
     ("description", ← memberOr spec "description" .null)])

/-- Declared answer under a code. -/
def response (place : Place) (code : String) (spec : Value) : Reading Response := do
  match readInteger code with
  | .error _ => throw (.described ⟨.codeNotANumber code, place⟩)
  | .ok n =>
    let spec := if spec.isGiven then spec else .record []
    check "Response" (Response.ofRecord
      [("code", .int n), ("type", ← memberOr spec "type" (.text "unit")),
       ("optional", ← memberOr spec "optional" (.bool false))])

/-- Answers with the first success that has a body made optional. -/
def makeFirstOptional : List Response → List Response
  | [] => []
  | r :: rs =>
    if r.isSuccess && !r.isUnit then { r with optional := true } :: rs
    else r :: makeFirstOptional rs

/-- Answers in which a not-found answer without a body makes the first success with a
body optional, unless some success is declared optional already. -/
def settleAbsence (rs : List Response) : List Response :=
  if rs.any (fun r => r.isNotFound && r.isUnit) && !rs.any (fun r => r.isSuccess && r.optional)
  then makeFirstOptional rs else rs

/-- Declared answers of an operation. -/
def responses (place : Place) : Value → Reading (List Response)
  | .record r => do return settleAbsence (← (← entriesOf r).mapM fun e => response place e.1 e.2)
  | _ => throw .noSuchPart

/-- Verb of an operation. -/
def verb : Value → Reading Verb
  | .text s =>
    match Verb.ofText? (toUpper s) with
    | some v => return v
    | none => throw (.value (.notAVerb (toUpper s)))
  | _ => throw .noSuchPart

/-- Path of a resource as operations extend it: without the slashes at its end. -/
def basePath (path : Value) : Reading String :=
  if !path.isGiven then return ""
  else match path with
    | .text s => return String.ofList (dropEndWhile (· = '/') s.toList)
    | _ => throw .noSuchPart

/-- Path of an operation: the resource's, then its own; nothing becomes a slash. -/
def operationPath (resourcePath own : Value) : Reading String := do
  let base ← basePath resourcePath
  match own with
  | .text s => return if base ++ s = "" then "/" else base ++ s
  | v => unfit .partOfText v

/-- Body of an operation: a notation or a record with one. -/
def body : Value → Reading Value
  | .record r => member (.record r) "type"
  | v => return v

/-- Operation of a resource. -/
def operation (resource resourcePath spec : Value) : Reading Operation := do
  let verb ← verb (← member spec "method")
  let path ← operationPath resourcePath (← memberOr spec "path" (.text ""))
  let body ← body (← memberOr spec "body" .null)
  let placeholders := placeholdersIn path
  let parameters ← (← itemsOf (← memberOr spec "parameters" (.list []))).mapM
    (parameter verb placeholders)
  let place : Place := { resource, operation := some (verb.text ++ " " ++ path) }
  let responses ← responses place (← memberOr spec "responses" (.record []))
  check "Operation" (Operation.around
    [("method", .text verb.text), ("path", .text path), ("body", body),
     ("description", ← memberOr spec "description" .null)]
    (.good parameters) (.good responses))

/-! ## 4. Resources and the service -/

/-- Plural of a resource that names none. -/
def pluralOf (name : Value) : Reading Value :=
  if !name.isGiven then return name
  else match name with
    | .text s => return .text (pluralize s)
    | _ => throw .noSuchPart

/-- Path of a resource that names none. -/
def defaultPath : Value → Reading Value
  | .text plural => return .text ("/" ++ plural)
  | v => unfit .partOfText v

/-- Entry of the resources section. -/
def resource (name spec : Value) : Reading Resource := do
  let given ← memberOr spec "plural" .null
  let plural ← if given.isGiven then pure given else pluralOf name
  let path ← memberOr spec "path" (← defaultPath plural)
  let operations ← (← itemsOf (← memberOr spec "operations" (.list []))).mapM
    (operation name path)
  check "Resource" (Resource.around
    [("type", name), ("plural", plural), ("path", path),
     ("description", ← memberOr spec "description" .null)]
    (.good operations))

/-- Service of a description that is a record. -/
def service (r : Record) : Reading Service := do
  let r ← entriesOf r
  let entry (key : String) : Value := (Table.get? r key).getD .null
  let headers ← headers (entry "headers")
  let enums ← (← section_ "enums" (entry "enums")).mapM fun e => enumType e.1 e.2
  let models ← (← section_ "models" (entry "models")).mapM fun e => modelType e.1 e.2
  let unions ← (← section_ "unions" (entry "unions")).mapM fun e => unionType e.1 e.2
  let resources ← (← section_ "resources" (entry "resources")).mapM fun e => resource e.1 e.2
  check "Service" (Service.around
    [("name", (Table.get? r "name").getD (.text "api")), ("namespace", entry "namespace"),
     ("base_url", entry "base_url"), ("description", entry "description")]
    (.good headers) (.good enums) (.good models) (.good unions) (.good resources))

end Reading

/-- Service of a description. -/
def Service.ofDocument (d : Document) : Except Fault Service :=
  match d.part d.root with
  | .record r =>
    match (Reading.service r).run d with
    | .ok s => .ok s
    | .error f => .error f.fault
  | _ => .error (.description ⟨.notARecord, {}⟩)

end ClientGen
