import ClientGen.Address.Relative
import ClientGen.Checked
import ClientGen.FileTree
import ClientGen.Json.Reader
import ClientGen.Number.Decimal
import ClientGen.Packing
import ClientGen.Service
import ClientGen.Text.Charset

/-!
# Faults

Everything that can be wrong, by cause. A description fault has a cause and a place: the
resource, the operation and the response code that it concerns, as far as known. The
wording of every cause stands in one function, so that the rest of the library speaks of
causes only.

* `Cause`, `Place`, `DescriptionFault`: what is wrong with a service description;
* `Fault`: what can stop a run, description faults among it;
* `Warning`: what a run reports without stopping.
-/
namespace ClientGen

open ClientGen.Text ClientGen.Number

/-! ## 1. Causes of description faults -/

/-- Why a declared default has no literal. -/
inductive DefaultFault where
  | notListed (names : List String)
  | integer (fault : IntegerFault)
  | float (text : String)
  | decimal (fault : DecimalFault)
  | truth
  | noLiteral
  deriving DecidableEq, Repr

/-- Wording of the reason. -/
def DefaultFault.message : DefaultFault → String
  | .notListed names => "not one of " ++ join ", " names
  | .integer fault => fault.message
  | .float s => "could not convert string to float: " ++ quoted s
  | .decimal fault => fault.message
  | .truth => "expected true or false"
  | .noLiteral => "no literal form"

/-- What is said of an integer that is too long to be written. -/
def longIntegerMessage : String :=
  "Exceeds the limit (4300 digits) for integer string conversion; "
    ++ "use sys.set_int_max_str_digits() to increase the limit"

/-- Values of a document that are of the right kind but mean nothing. -/
inductive ValueCause where
  | notAVerb (text : String)
  | notALocation (text : String)
  | longInteger
  deriving DecidableEq, Repr

/-- Wording of the reason. -/
def ValueCause.message : ValueCause → String
  | .notAVerb s => quoted s ++ " is not a valid Method"
  | .notALocation s => quoted s ++ " is not a valid ParameterLocation"
  | .longInteger => longIntegerMessage

/-- What a value is needed as. -/
inductive Use where
  | record
  | items
  | key
  | enumFields
  | partOfText
  deriving DecidableEq, Repr

/-- A value of a kind that cannot be used as it is needed. -/
structure KindFault where
  use : Use
  kind : Value.Kind
  deriving DecidableEq, Repr

/-- Wording of the reason. -/
def KindFault.message (f : KindFault) : String :=
  match f.use, f.kind with
  | .record, .list => "list indices must be integers or slices, not str"
  | .record, .text => "string indices must be integers, not 'str'"
  | .record, k => "'" ++ k.name ++ "' object is not subscriptable"
  | .items, k => "'" ++ k.name ++ "' object is not iterable"
  | .key, k => "unhashable type: '" ++ k.name ++ "'"
  | .enumFields, k =>
    "apidoc_client.internal.types.service.EnumValue() argument after ** must be a mapping, not "
      ++ k.name
  | .partOfText, k => "can only concatenate str (not \"" ++ k.name ++ "\") to str"

/-- What is wrong with a service description. -/
inductive Cause where
  | notARecord
  | sectionNotARecord (section_ : String)
  | missingKey (key : String)
  | codeNotANumber (code : String)
  | invalidRecord (fault : RecordFault)
  | invalidKind (fault : KindFault)
  | invalidValue (cause : ValueCause)
  | typeDeclaredTwice (name : String)
  | classNameShared (name other className : String)
  | unresolvedType (text : String)
  | unitAtRunTime
  | badDefault (raw type : String) (fault : DefaultFault)
  | defaultUnsupported (type : String)
  | placeholderTwice (name : String)
  | parameterTwice (name : String)
  | parameterNotInPath (name : String)
  | pathParameterOptional (name : String)
  | formWithBody
  | bodyRefused (verb : Verb)
  | formRefused (verb : Verb) (names : List String)
  | argumentTwice (name : String)
  | methodNameShared (name label : String)
  | twoOptionalSuccesses
  | errorClassShared (className type other : String)
  | handlerShared (handler label plural : String)
  | resourceClassShared (className plural : String)
  | unionEmpty (name : String)
  | variantUnsuitable (name type : String)
  | discriminatorShared (name first second discriminator : String)
  | memberShared (enum_ value member : String)
  | fieldShared (model field taken : String)
  | inUnion (name : String) (cause : Cause)
  | inField (model field : String) (cause : Cause)
  deriving DecidableEq, Repr

/-- Wording of a cause. -/
def Cause.message : Cause → String
  | .notARecord => "Service description must be a JSON object"
  | .sectionNotARecord s => "Section[" ++ s ++ "] must be an object"
  | .missingKey k => "Missing required key " ++ quoted k
  | .codeNotANumber c => "Response code[" ++ c ++ "] is not a number"
  | .invalidRecord _ => "Invalid service description: <validation>"
  | .invalidKind f => "Invalid service description: " ++ f.message
  | .invalidValue c => "Invalid service description: " ++ c.message
  | .typeDeclaredTwice n => "Type[" ++ n ++ "] is declared more than once"
  | .classNameShared n o c =>
    "Type[" ++ n ++ "] collides with type[" ++ o ++ "] as class " ++ c
  | .unresolvedType s => "Unresolved type reference[" ++ s ++ "]"
  | .unitAtRunTime => "Type[unit] has no runtime representation"
  | .badDefault raw t f => "Invalid default[" ++ raw ++ "] for type[" ++ t ++ "]: " ++ f.message
  | .defaultUnsupported t => "Defaults are not supported for type[" ++ t ++ "]"
  | .placeholderTwice n => "Path parameter[" ++ n ++ "] appears more than once in path"
  | .parameterTwice n => "Parameter[" ++ n ++ "] is declared more than once"
  | .parameterNotInPath n => "Path parameter[" ++ n ++ "] does not appear in path"
  | .pathParameterOptional n => "Path parameter[" ++ n ++ "] cannot be optional"
  | .formWithBody => "Form parameters cannot be combined with a request body"
  | .bodyRefused v => v.text ++ " does not accept a request body"
  | .formRefused v ns => v.text ++ " does not accept form parameters: " ++ join ", " ns
  | .argumentTwice n => "Argument[" ++ n ++ "] is declared more than once"
  | .methodNameShared n l => "Method name[" ++ n ++ "] collides with " ++ l
  | .twoOptionalSuccesses => "At most one success response may be optional"
  | .errorClassShared c t o =>
    "Error class[" ++ c ++ "] of type[" ++ t ++ "] collides with type[" ++ o ++ "]"
  | .handlerShared h l p => "Handler[" ++ h ++ "] collides with " ++ l ++ " of resource " ++ p
  | .resourceClassShared c p => "Class name[" ++ c ++ "] collides with resource " ++ p
  | .unionEmpty n => "Union[" ++ n ++ "] has no variants"
  | .variantUnsuitable n t =>
    "Union[" ++ n ++ "]: variant[" ++ t ++ "] must be a primitive, enum or model"
  | .discriminatorShared n a b d =>
    "Union[" ++ n ++ "]: variants [" ++ a ++ "] and [" ++ b ++ "] share discriminator[" ++ d ++ "]"
  | .memberShared e v m => "Enum[" ++ e ++ "]: value[" ++ v ++ "] collides with member " ++ m
  | .fieldShared m f a => "Model[" ++ m ++ "]: field[" ++ f ++ "] collides with " ++ a
  | .inUnion n c => "Union[" ++ n ++ "]: " ++ c.message
  | .inField m f c => "Model[" ++ m ++ "] field[" ++ f ++ "]: " ++ c.message

/-! ## 2. Places -/

/-- Part of a service that a fault concerns. The resource's name is kept as it is written,
which need not be a text; null means that none is concerned. -/
structure Place where
  resource : Value := .null
  operation : Option String := none
  code : Option Int := none
  deriving DecidableEq, Repr

/-- Parts of a place that are shown: empty names are not. -/
def Place.parts (p : Place) : List String :=
  (if p.resource.isGiven then ["resource[" ++ p.resource.display ++ "]"] else []) ++
    (match p.operation with
      | some s => if s = "" then [] else ["operation[" ++ s ++ "]"]
      | none => []) ++
    (match p.code with
      | some c => ["response[" ++ integerText c ++ "]"]
      | none => [])

/-- Message with its place before it. -/
def Place.describe (p : Place) (message : String) : String :=
  match p.parts with
  | [] => message
  | parts => join " " parts ++ ": " ++ message

/-- Tells whether a place cannot be shown, for an integer in it that is too long. A name that
is a text holds none. -/
def Place.hasLongInteger (p : Place) : Bool :=
  p.code.any isLong ||
    match p.resource with
    | .text _ => false
    | v => v.hasLongInteger

/-- A fault of a service description. -/
structure DescriptionFault where
  cause : Cause
  place : Place := {}
  deriving DecidableEq, Repr

namespace DescriptionFault

/-- Wording without the place. -/
def text (f : DescriptionFault) : String := f.cause.message

/-- Wording with the place. -/
def message (f : DescriptionFault) : String := f.place.describe f.text

end DescriptionFault

/-! ## 3. Faults of a run -/

/-- What can stop a run. -/
inductive Fault where
  /-- The description is at fault. -/
  | description (fault : DescriptionFault)
  /-- A record does not fit its shape. -/
  | record (fault : RecordFault)
  /-- A dialect has no settings. -/
  | unknownDialect (name : String)
  /-- A source is neither an address nor a file. -/
  | unreadableSource (source : String)
  /-- A source is no address. -/
  | address (fault : Address.AddressFault)
  /-- The name of a host cannot be read. -/
  | hostName (fault : Address.NameFault)
  /-- A text has characters that it cannot be written with. -/
  | foreignText (row : ForeignRow)
  /-- The address of a page that answered has no scheme. -/
  | unknownKind (address : String)
  /-- A page redirects to what is no address. -/
  | redirection (fault : Address.AddressFault)
  /-- A body that is said to be packed is not. -/
  | unpacking (fault : Packing.PackingFault)
  /-- The bytes of a loaded text write no characters. -/
  | decoding (fault : Json.DecodingFault)
  /-- A loaded text is no JSON. -/
  | document (fault : Json.Fault)
  /-- A reference in a document leads nowhere. -/
  | danglingReference
  /-- References in a document lead to each other in a circle. -/
  | endlessReference
  /-- The authority in the text of a reference or redirection is refused. -/
  | authority (fault : Address.AuthorityFault)
  /-- A document that holds itself has no text. -/
  | holdsItself
  /-- An integer is too long to be written. -/
  | longInteger
  /-- A moment is a day or more away from universal time. -/
  | farMoment
  /-- A page was answered with a code that is no success. -/
  | pageStatus (message : String)
  /-- A page could not be reached. -/
  | pageUnreachable (message : String)
  /-- Redirections lead on and on. -/
  | endlessRedirects
  /-- A file or directory is refused. -/
  | file (fault : FileFault)
  /-- No source is configured. -/
  | sourceMissing
  /-- The input ended while an answer was expected. -/
  | inputEnded
  /-- A part was asked of a value that has no such part. -/
  | noSuchPart
  /-- A value is of the wrong kind. -/
  | wrongKind
  /-- A name is not there. -/
  | nameMissing
  /-- A position is outside, of a list or of a text that has no quoted form. -/
  | outOfRange
  /-- The value of a name was never set. -/
  | unsetValue
  /-- A number is too large. -/
  | numberTooLarge
  /-- A step has no meaning. -/
  | unknownStep
  /-- A rank was given to a file, which has none. -/
  | fileWithoutRank
  deriving DecidableEq, Repr

/-- Wording of a fault, as far as it is shown. -/
def Fault.message : Fault → String
  | .description f => f.message
  | .unknownDialect name =>
    "Неизвестный диалект " ++ name ++ ". Доступны: aiohttp, aiohttp-compat"
  | .unreadableSource source =>
    "Не удалось загрузить описание из " ++ source ++ ". Проверьте URL или путь к файлу."
  | .address f => f.message
  | .hostName f => f.message
  | .foreignText row => row.message
  | .unknownKind s => "unknown url type: " ++ quoted s
  | .redirection f => "Invalid URL in location header: " ++ f.message ++ "."
  | .unpacking f => f.message
  | .decoding f => f.message
  | .document f => f.message
  | .authority f => f.message
  | .holdsItself => "Circular reference detected"
  | .pageStatus m => m
  | .pageUnreachable m => m
  | .endlessRedirects => "Exceeded maximum allowed redirects."
  | .file f => f.message
  | .sourceMissing => "URL не указан в конфигурации"
  | .longInteger => longIntegerMessage
  | .farMoment =>
    "offset must be a timedelta strictly between -timedelta(hours=24) and timedelta(hours=24)."
  | .unknownStep => "unknown step"
  | .fileWithoutRank => "\"CodeFile\" object has no field \"order\""
  | _ => ""

/-- What stops a run for a fault of the description: the fault, unless its place cannot be
shown. -/
def DescriptionFault.raised (f : DescriptionFault) : Fault :=
  if f.place.hasLongInteger then .longInteger else .description f

/-- Text of a value, unless it holds an integer that is too long or is a moment without one. -/
def Value.shown (v : Value) : Except Fault String :=
  match v with
  | .moment m => if m.hasText then .ok m.text else .error .farMoment
  | v => if v.hasLongInteger then .error .longInteger else .ok v.display

/-! ## 4. Warnings -/

/-- What a run reports without stopping. -/
inductive Warning where
  | duplicateCode (label : String) (code : Int)
  | patchUnsupported (label dialect : String)
  deriving DecidableEq, Repr

/-- Wording of a warning; one about a code that is too long to be written is lost. -/
def Warning.message? : Warning → Option String
  | .duplicateCode label code =>
    if isLong code then none
    else some (label ++ ": duplicate response code " ++ integerText code ++ " ignored")
  | .patchUnsupported label dialect =>
    some (label ++ ": PATCH is not supported by dialect " ++ dialect
      ++ ", the method will raise at runtime")

/-- A computation that reports warnings, kept also when it stops. -/
structure Traced (ε α : Type) where
  warnings : List Warning
  outcome : Except ε α

namespace Traced

/-- Report of one warning. -/
def warn (w : Warning) : Traced ε Unit := ⟨[w], .ok ()⟩

/-- Computation without warnings. -/
def lift (x : Except ε α) : Traced ε α := ⟨[], x⟩

/-- Computation whose stops are told as others. -/
def mapError (f : ε → δ) (x : Traced ε α) : Traced δ α := ⟨x.warnings, x.outcome.mapError f⟩

/-- One computation after another; a stop keeps the warnings so far. -/
def andThen (x : Traced ε α) (f : α → Traced ε β) : Traced ε β :=
  match x.outcome with
  | .ok a => ⟨x.warnings ++ (f a).warnings, (f a).outcome⟩
  | .error e => ⟨x.warnings, .error e⟩

instance : Monad (Traced ε) where
  pure a := ⟨[], .ok a⟩
  bind := andThen

instance : MonadLift (Except ε) (Traced ε) where
  monadLift := lift

end Traced

end ClientGen
