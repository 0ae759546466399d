import ClientGen.Dialect
import ClientGen.Text.Blank
import ClientGen.TypeRef

/-!
# Registry of declared types

A registry holds the declared types of a service with their kinds and reads type
notations against them. Names are declared once, none is a primitive's, and no two give
the same class. A notation is a name, a list `[t]` or a map `map[t]`, with white space
allowed around every part; `map` alone is a map of texts.
-/
namespace ClientGen

open ClientGen.Text ClientGen.Number

/-- Declared types of a service under the settings of its client. -/
structure Registry where
  settings : Settings
  enums : List EnumType
  entries : Table NamedKind

/-- Type in generated code with the value that stands for its absence. -/
structure ResolvedType where
  type : TypeExpr
  nilValue : String
  isUnit : Bool

namespace Registry

/-! ## 1. Declarations -/

/-- Declared names with their kinds, enums first and unions last. -/
def declarations (s : Service) : List (String × NamedKind) :=
  s.enums.map (fun e => (e.name, .enum)) ++ s.models.map (fun m => (m.name, .model)) ++
    s.unions.map fun u => (u.name, .union)

/-- Declares names one after another; `seen` holds those declared so far. -/
def declare (seen : Table NamedKind) : List (String × NamedKind) → Except Cause (Table NamedKind)
  | [] => .ok seen
  | (name, kind) :: rest =>
    if (Table.get? seen name).isSome || (Primitive.ofName? name).isSome then
      .error (.typeDeclaredTwice name)
    else match seen.find? fun e => pascalCase e.1 = pascalCase name with
      | some other => .error (.classNameShared name other.1 (pascalCase name))
      | none => declare (seen ++ [(name, kind)]) rest

/-- Registry of a service. -/
def ofService (s : Service) (settings : Settings) : Except DescriptionFault Registry :=
  match declare [] (declarations s) with
  | .ok entries => .ok ⟨settings, s.enums, entries⟩
  | .error cause => .error ⟨cause, {}⟩

/-! ## 2. Notations -/

/-- What a notation without its outer white space consists of. -/
inductive Shape where
  | list (inner : List Char)
  | map (inner : List Char)
  | leaf

/-- Shape of a notation: brackets must open at the front and close at the end. -/
def shapeOf (cs : List Char) : Shape :=
  match cs with
  | '[' :: rest =>
    if rest.getLast? = some ']' then .list rest.dropLast else .leaf
  | 'm' :: 'a' :: 'p' :: '[' :: rest =>
    if rest.getLast? = some ']' then .map rest.dropLast else .leaf
  | _ => .leaf

/-- Reference of a notation that is a name; `whole` is the notation as written. -/
def lookUp (r : Registry) (whole name : String) : Except Cause TypeRef :=
  if name = "map" then .ok (.map (.primitive .string))
  else match Primitive.ofName? name with
    | some p => .ok (.primitive p)
    | none =>
      match Table.get? r.entries name with
      | some kind => .ok (.named kind name)
      | none => .error (.unresolvedType whole)

/-- Reference of a notation. Brackets are taken off from outside, so as many steps as
there are characters suffice. -/
def parseChars (r : Registry) : Nat → List Char → Except Cause TypeRef
  | 0, cs => .error (.unresolvedType (String.ofList cs))
  | fuel + 1, cs =>
    let body := trimWhile isBlank cs
    match shapeOf body with
    | .list inner => (parseChars r fuel inner).map .list
    | .map inner => (parseChars r fuel inner).map .map
    | .leaf => lookUp r (String.ofList cs) (String.ofList body)

/-- Reference of a notation. -/
def parse (r : Registry) (s : String) : Except Cause TypeRef :=
  parseChars r (s.toList.length + 1) s.toList

/-! ## 3. Types in generated code -/

/-- Class of a declared type inside the models module. -/
def localClass (name : String) : String := pascalCase name

/-- Class of a declared type; `qualified` puts the models namespace before it. -/
def className (r : Registry) (name : String) (qualified : Bool) : String :=
  if qualified && r.settings.modelsNamespace ≠ "" then
    r.settings.modelsNamespace ++ "." ++ localClass name
  else localClass name

/-- Type that a reference stands for. -/
def resolve (r : Registry) (qualified : Bool) : TypeRef → ResolvedType
  | .primitive p => ⟨p.type, "None", p = .unit⟩
  | .named _ name => ⟨.name (r.className name qualified), "None", false⟩
  | .list of => ⟨.list (r.resolve qualified of).type, "[]", false⟩
  | .map of => ⟨.dict (r.resolve qualified of).type, "\x7b\x7d", false⟩
  | .option of =>
    let inner := r.resolve qualified of
    ⟨.optional inner.type, "None", inner.isUnit⟩

/-- Type of a reference outside the models module. -/
def typeOf (r : Registry) (ref : TypeRef) : TypeExpr := (r.resolve true ref).type

/-- Type of a reference inside the models module. -/
def localTypeOf (r : Registry) (ref : TypeRef) : TypeExpr := (r.resolve false ref).type

/-- Class that values of a reference belong to at run time. -/
def runtimeClass (r : Registry) (qualified : Bool) : TypeRef → Except Cause String
  | .primitive p =>
    match p.runtimeClass? with
    | some c => .ok c
    | none => .error .unitAtRunTime
  | .named _ name => .ok (r.className name qualified)
  | .list _ => .ok "list"
  | .map _ => .ok "dict"
  | .option _ => .ok "object"

/-! ## 4. Literals of declared defaults -/

/-- Literal of a default of an enum: the class applied to the value's name. -/
def enumLiteral (r : Registry) (name raw : String) (qualified : Bool) : Except DefaultFault String :=
  let values := ((r.enums.find? (·.name = name)).map (·.values)).getD []
  let names := values.map (·.name)
  if names.contains raw then .ok (r.className name qualified ++ "(" ++ quoted raw ++ ")")
  else .error (.notListed names)

/-- Literal of a default of a primitive. -/
def primitiveLiteral (p : Primitive) (raw : String) : Except DefaultFault String :=
  match p with
  | .string => .ok (quoted raw)
  | .integer | .long =>
    match readInteger raw with
    | .ok n => .ok (integerText n)
    | .error f => .error (.integer f)
  | .double =>
    match readFloat? raw with
    | some x => .ok x.text
    | none => .error (.float raw)
  | .decimal =>
    match checkDecimal raw with
    | .ok _ => .ok ("decimal.Decimal(" ++ quoted raw ++ ")")
    | .error f => .error (.decimal f)
  | .boolean =>
    let word := toLower raw
    if word = "true" then .ok "True"
    else if word = "false" then .ok "False"
    else .error .truth
  | .uuid => .ok ("uuid.UUID(" ++ quoted raw ++ ")")
  | .date => .ok ("datetime.date.fromisoformat(" ++ quoted raw ++ ")")
  | .dateTime | .object | .unit => .error .noLiteral

/-- Literal of a declared default. -/
def defaultLiteral (r : Registry) (raw : String) (qualified : Bool) :
    TypeRef → Except Cause String
  | .option of => r.defaultLiteral raw qualified of
  | .named .enum name =>
    match r.enumLiteral name raw qualified with
    | .ok s => .ok s
    | .error f => .error (.badDefault raw name f)
  | .primitive p =>
    match primitiveLiteral p raw with
    | .ok s => .ok s
    | .error f => .error (.badDefault raw p.name f)
  | ref => .error (.defaultUnsupported ref.shortName)

end Registry

end ClientGen
