import ClientGen.Registry
import ClientGen.Service
import ClientGen.Source.Class
import ClientGen.Text.Identifier

/-!
# Enums and models

Each enum gives a class with one member a value, each model a class with one attribute a
field. This file fixes

* the names of members and attributes, which must be identifiers and, for attributes,
  must not hide what the base class needs;
* members, which carry the value as declared;
* attributes: type, default, and the declared name where the attribute's differs.
-/
namespace ClientGen

open ClientGen.Text ClientGen.Source

/-! ## 1. Names -/

/-- Name of an enum's member. -/
def enumMemberName (value : String) : String :=
  let name := toUpper (snakeCase value)
  safeName (if name = "" || startsWithDigit name then "VALUE_" ++ name else name)

/-- Names that no attribute of a model may have: methods of the base class, and modules
that types refer to. -/
def reservedFields : List String :=
  ["construct", "copy", "datetime", "decimal", "dict", "from_orm", "json", "parse_file",
   "parse_obj", "parse_raw", "schema", "schema_json", "update_forward_refs", "uuid", "validate"]

/-- Name of a model's attribute. -/
def fieldName (s : String) : String :=
  let name := safeName (snakeCase s)
  if reservedFields.contains name || startsWith name "model_" then name ++ "_" else name

/-! ## 2. Enums -/

/-- Members of an enum after those with the names `seen`. -/
def enumMembers (enum_ : String) (seen : List String) :
    List EnumValue → Except Cause (List Source.Parameter)
  | [] => .ok []
  | v :: rest =>
    let name := enumMemberName v.name
    if seen.contains name then .error (.memberShared enum_ v.name name)
    else do
      let members ← enumMembers enum_ (name :: seen) rest
      return { name, default := some (quoted v.name) } :: members

/-- Class of an enum. -/
def EnumType.toClass (e : EnumType) : Except DescriptionFault Source.Class :=
  match enumMembers e.name [] e.values with
  | .ok members => .ok
    { name := Registry.localClass e.name, inherits := ["str", "Enum"],
      description := e.description, parameters := members }
  | .error cause => .error ⟨cause, {}⟩

/-! ## 3. Models -/

/-- Reference of a field and literal of its default. A field that need not be given and
has no declared default may be missing. -/
def Field.settle (r : Registry) (f : Field) : Except Cause (TypeRef × Option String) := do
  let ref ← r.parse f.type
  match f.default with
  | some raw => return (ref, some (← r.defaultLiteral raw false ref))
  | none => return if f.required then (ref, none) else (ref.optional, some "None")

/-- Default of an attribute: it also carries the declared name where the attribute's own
differs. -/
def aliasedDefault (declared name : String) (default : Option String) : Option String :=
  if name = declared then default
  else some ("Field(" ++ join ", " ((default.map fun d => "default=" ++ d).toList
    ++ ["alias=\"" ++ declared ++ "\""]) ++ ")")

/-- Attribute of a field. -/
def Field.toAttribute (r : Registry) (model : String) (f : Field) : Except Cause Source.Parameter := do
  let (ref, default) ← (f.settle r).mapError (.inField model f.name)
  let name := fieldName f.name
  return { name, type := some (r.localTypeOf ref), default := aliasedDefault f.name name default }

/-- Attributes of fields after those with the names `seen`. -/
def modelAttributes (r : Registry) (model : String) (seen : List String) :
    List Field → Except Cause (List Source.Parameter)
  | [] => .ok []
  | f :: rest =>
    let name := fieldName f.name
    if seen.contains name then .error (.fieldShared model f.name name)
    else do
      let a ← f.toAttribute r model
      return a :: (← modelAttributes r model (name :: seen) rest)

/-- Attribute that lets a model be built by attribute names as well as declared ones. -/
def modelConfig : Source.Parameter :=
  { name := "model_config", default := some "ConfigDict(populate_by_name=True)" }

/-- Class of a model. -/
def ModelType.toClass (r : Registry) (m : ModelType) : Except DescriptionFault Source.Class :=
  match modelAttributes r m.name [] m.fields with
  | .ok attributes => .ok
    { name := Registry.localClass m.name, inherits := ["BaseModel"],
      description := m.description, parameters := modelConfig :: attributes }
  | .error cause => .error ⟨cause, {}⟩

/-! ## 4. Forward references -/

/-- Code that settles the models' references to later classes. -/
def rebuildText (models : List ModelType) : String :=
  Block.stack (models.map fun m => Registry.localClass m.name ++ ".model_rebuild()")

end ClientGen
