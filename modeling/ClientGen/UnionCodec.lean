import ClientGen.Registry
import ClientGen.Service
import ClientGen.Source.Function
import ClientGen.Table

/-!
# Union codecs

A value of a union is written as an object with one entry, whose key, the discriminator,
tells the variant. This file fixes

* variants: which types a union may consist of, and their discriminators;
* the two orders: reading tries the variants as declared, writing tests classes below
  another one before it;
* the codec in generated code: a pair of functions for each variant, the reader, the
  writer, and the alias that puts them to use.
-/
namespace ClientGen

open ClientGen.Text ClientGen.Source

/-! ## 1. Variants -/

/-- One of the types of a union. -/
structure UnionVariant where
  notation_ : String
  discriminator : String
  ref : TypeRef
  runtimeClass : String
  deriving DecidableEq, Repr

/-- Codec of a union: its names and its variants as declared. -/
structure UnionCodec where
  name : String
  className : String
  variants : List UnionVariant
  deriving DecidableEq, Repr

namespace UnionCodec

/-- Class of the values of a variant; only primitives with values, enums and models may
be variants. -/
def variantClass? : TypeRef → Option String
  | .primitive p => p.runtimeClass?
  | .named .union _ => none
  | .named _ name => some (Registry.localClass name)
  | _ => none

/-- Variant of a notation. -/
def variantOf (r : Registry) (union : String) (s : String) : Except Cause UnionVariant := do
  let ref ← (r.parse s).mapError (.inUnion union)
  match variantClass? ref with
  | some runtimeClass => return ⟨s, snakeCase s, ref, runtimeClass⟩
  | none => throw (.variantUnsuitable union s)

/-- Variants of notations after those `before`; no two share a discriminator. -/
def variantsAfter (r : Registry) (union : String) (before : List UnionVariant) :
    List String → Except Cause (List UnionVariant)
  | [] => .ok before
  | s :: rest => do
    let v ← variantOf r union s
    match before.find? (·.discriminator = v.discriminator) with
    | some other => throw (.discriminatorShared union other.notation_ s v.discriminator)
    | none => variantsAfter r union (before ++ [v]) rest

/-- Variants of a union, in declared order. -/
def variantsOf (r : Registry) (u : UnionType) : Except Cause (List UnionVariant) :=
  if u.types.isEmpty then .error (.unionEmpty u.name) else variantsAfter r u.name [] u.types

/-- Codec of a union. -/
def ofUnion (r : Registry) (u : UnionType) : Except DescriptionFault UnionCodec :=
  match variantsOf r u with
  | .ok variants => .ok ⟨u.name, Registry.localClass u.name, variants⟩
  | .error cause => .error ⟨cause, {}⟩

/-! ## 2. Names -/

/-- Name that all functions of a codec share. -/
def stem (c : UnionCodec) : String := snakeCase c.name

/-- Name of the reader. -/
def readName (c : UnionCodec) : String := "read_" ++ c.stem

/-- Name of the writer. -/
def writeName (c : UnionCodec) : String := "write_" ++ c.stem

/-- Name of the reader of a variant. -/
def variantReadName (c : UnionCodec) (v : UnionVariant) : String :=
  "_read_" ++ c.stem ++ "_" ++ v.discriminator

/-- Name of the writer of a variant. -/
def variantWriteName (c : UnionCodec) (v : UnionVariant) : String :=
  "_write_" ++ c.stem ++ "_" ++ v.discriminator

/-! ## 3. Orders -/

/-- Classes below another class that a variant can have: truth values are integers, and
points of time are dates. -/
def subclasses : List String := ["bool", "datetime.datetime"]

/-- Rank of a variant among the tests of the writer: enums and models, since the values
of an enum are texts too; then classes below another one; then the rest. -/
def writeRank (v : UnionVariant) : Nat :=
  (if v.ref.isPrimitive then 2 else 0) + (if subclasses.contains v.runtimeClass then 0 else 1)

/-- Variants in the order in which the writer tests them. -/
def writeOrder (c : UnionCodec) : List UnionVariant :=
  sortBy (fun a b => decide (writeRank a ≤ writeRank b)) c.variants

/-- Classes whose values the reader returns as they are, each once. Dictionaries are read
instead. -/
def passedClasses (c : UnionCodec) : List String :=
  (c.variants.foldl (fun cs v =>
    if cs.contains v.runtimeClass then cs else cs ++ [v.runtimeClass]) []).filter (· ≠ "dict")

/-! ## 4. Functions -/

/-- Type of a variant inside the models module. -/
def typeOf (r : Registry) (v : UnionVariant) : TypeExpr := r.localTypeOf v.ref

/-- Any of the variants' types. -/
def type (r : Registry) (c : UnionCodec) : TypeExpr := .union (c.variants.map (typeOf r))

/-- Function that writes a variant. -/
def variantWriter (r : Registry) (c : UnionCodec) (v : UnionVariant) : Function :=
  { name := c.variantWriteName v
    parameters := [{ name := "obj", type := some (typeOf r v) }]
    response := "Any"
    code := some (.ofCode
      ("return TypeAdapter(" ++ (typeOf r v).text ++ ").dump_python(obj, mode=\"json\", by_alias=True)")) }

/-- Function that reads a variant. -/
def variantReader (r : Registry) (c : UnionCodec) (v : UnionVariant) : Function :=
  { name := c.variantReadName v
    parameters := [{ name := "data", type := some (.name "Any") }]
    response := (typeOf r v).text
    code := some (.ofCode
      ("return TypeAdapter(" ++ (typeOf r v).text ++ ").validate_python(data)")) }

/-- Code that lets values of the union pass. -/
def passText : List String → String
  | [] => ""
  | classes =>
    let tested := match classes with
      | [one] => one
      | _ => "(" ++ join ", " classes ++ ")"
    Block.nested ("if isinstance(data, " ++ tested ++ ") and not isinstance(data, dict):") "return data"

/-- Code that tries to read a variant where its key is there. -/
def checkText (c : UnionCodec) (v : UnionVariant) : String :=
  Block.nested ("if \"" ++ v.discriminator ++ "\" in data:") (Block.stack
    ["try:",
     indent ("return " ++ c.variantReadName v ++ "(data[\"" ++ v.discriminator ++ "\"])"),
     "except ValidationError as e:",
     indent "errors.append(e)"])

/-- Function that reads the union: the first variant that fits wins. -/
def reader (r : Registry) (c : UnionCodec) : Function :=
  { name := c.readName
    parameters := [{ name := "data", type := some (.name "Any") }]
    response := (c.type r).text
    description := some ("Чтение union[" ++ c.name ++ "], варианты в порядке проверки: "
      ++ join ", " (c.variants.map (·.discriminator)))
    code := some (.ofCode (Block.stack
      [passText c.passedClasses,
       "errors = []",
       Block.nested "if isinstance(data, dict):" (Block.stack (c.variants.map c.checkText)),
       "raise ValueError(f\"Invalid json for union[" ++ c.name
         ++ "]: \x7bdata!r\x7d \x7berrors\x7d\")"])) }

/-- Code that writes a variant where its class fits. -/
def branchText (c : UnionCodec) (v : UnionVariant) : String :=
  Block.nested ("if isinstance(obj, " ++ v.runtimeClass ++ "):")
    ("return \x7b\"" ++ v.discriminator ++ "\": " ++ c.variantWriteName v ++ "(obj)\x7d")

/-- Function that writes the union. -/
def writer (r : Registry) (c : UnionCodec) : Function :=
  { name := c.writeName
    parameters := [{ name := "obj", type := some (c.type r) }]
    response := "Dict[str, Any]"
    code := some (.ofCode (Block.stack (c.writeOrder.map c.branchText ++
      ["raise TypeError(f\"Unsupported type[\x7btype(obj).__name__\x7d] for union["
         ++ c.name ++ "]\")"]))) }

/-- Functions of a codec: a pair for each variant, then the reader and the writer. -/
def functions (r : Registry) (c : UnionCodec) : List Function :=
  c.variants.flatMap (fun v => [c.variantWriter r v, c.variantReader r v]) ++ [c.reader r, c.writer r]

/-! ## 5. Text -/

/-- Name of the union, bound to its type together with its codec. -/
def aliasText (r : Registry) (c : UnionCodec) : String :=
  c.className ++ " = Annotated[\n" ++ indent (unlines
    [(c.type r).text ++ ",",
     "PlainValidator(" ++ c.readName ++ "),",
     "PlainSerializer(" ++ c.writeName ++ "),"]) ++ "\n]"

/-- Codec as one block: functions, then the alias. -/
def block (r : Registry) (c : UnionCodec) : Block :=
  .ofCode (Block.joinTexts "\n\n\n" ((c.functions r).map (·.text) ++ [expandTabs (c.aliasText r)]))

end UnionCodec

end ClientGen
