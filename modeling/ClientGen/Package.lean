import ClientGen.ClientMethod
import ClientGen.Config
import ClientGen.ErrorType
import ClientGen.ModelClass
import ClientGen.Package.Support
import ClientGen.Route
import ClientGen.Service.Document
import ClientGen.Source.Project
import ClientGen.UnionCodec

/-!
# The client package

A package is the project that is generated for a service: eight files at most, in a fixed
order. The first fault of the description stops everything. This file fixes

* where a package comes from, which it also records in a configuration file;
* the files one by one;
* the package of a service and of a document.
-/
namespace ClientGen

open ClientGen.Text

namespace Package

/-! ## 1. Origins -/

/-- Where a package comes from: the source of its description, if known, and the directory
that it was asked for. -/
structure Origin where
  source : Value := .null
  dirname : Value := .null

/-- Configuration from which a package can be generated anew. -/
def configOf (s : Settings) (source dirname : Value) : Record :=
  [("url", source), ("dialect", .text s.name)] ++
    (if dirname.isGiven then [("dirname", dirname)] else [])

/-- Configuration file, for a package whose source is known. -/
def configFiles (s : Settings) (o : Origin) : Except Fault (List Source.File) :=
  if !o.source.isGiven then .ok []
  else do
    let text := trimEnd (← Toml.write (configOf s o.source o.dirname))
    return [Source.File.addBlock { name := configFile }
      (.ofCode ("# Configuration for API client\n" ++ text))]

/-! ## 2. Support and models -/

/-- Dictionary literal, one entry a line. -/
def dictLiteral (entries : List (String × String)) : String :=
  if entries.isEmpty then "\x7b\x7d"
  else "\x7b\n" ++ indent (unlines (entries.map fun e => quoted e.1 ++ ": " ++ quoted e.2 ++ ","))
    ++ "\n\x7d"

/-- Constants of a client. -/
def constants (s : Settings) (service : Service) : Source.Block :=
  { order := 2
    code := unlines
      ["logger = logging.getLogger(__name__)",
       "",
       "BASE_URL: Optional[str] = " ++ (service.baseUrl.map quoted).getD "None",
       "DEFAULT_HEADERS: Dict[str, str] = "
         ++ dictLiteral (Table.ofEntries (service.headers.map fun h => (h.name, h.value))),
       "",
       "# HTTP метод -> метод aiohttp.ClientSession",
       "DISPATCH: Dict[str, str] = " ++ dictLiteral (s.dispatch.map fun e => (e.1.text, e.2)),
       "SUPPORTS_PATCH = " ++ (if s.supportsPatch then "True" else "False")] }

/-- File of the support code. -/
def supportFile (s : Settings) (service : Service) : Source.File :=
  { name := "common.py"
    imports := [Support.supportImports]
    blocks := [constants s service, { order := 1, code := Support.code }] }

/-- File of the models: enums, models, codecs, and what settles forward references. -/
def modelsFile (r : Registry) (service : Service) : Except DescriptionFault Source.File := do
  let enums ← service.enums.mapM (·.toClass)
  let models ← service.models.mapM (·.toClass r)
  let codecs ← service.unions.mapM (UnionCodec.ofUnion r)
  let blocks : List Source.Block := codecs.map (fun c => { c.block r with order := 2 }) ++
    (if service.models.isEmpty then [] else [{ order := 1, code := rebuildText service.models }])
  let file : Source.File := { name := "models.py", imports := [Support.modelImports], blocks }
  return (enums.map (·.withRank 4) ++ models.map (·.withRank 3)).foldl Source.File.addClass file

/-! ## 3. Errors, interfaces and the client -/

/-- File of the error classes. -/
def errorsFile (r : Registry) (service : Service) : Except DescriptionFault Source.File := do
  return (← ErrorType.classes r service).foldl Source.File.addClass
    { name := "errors.py", imports := [Support.errorImports] }

/-- File of the resources' interfaces. -/
def interfacesFile (r : Registry) (service : Service) : Traced Fault Source.File := do
  return (← ClientMethod.traits r service).foldl Source.File.addClass
    { name := "interfaces.py", imports := [Support.interfaceImports] }

/-- Class of the client: it holds the resources. -/
def clientClass (service : Service) : Source.Class :=
  Source.Class.addFunction
    { name := "ApiClient", inherits := ["AiohttpClient", "metaclass=Singleton"],
      description := service.description }
    { name := "__init__"
      parameters := [{ name := "self" }]
      code := some (.ofCode
        (Source.Block.stack ("super().__init__()" :: ClientMethod.accessors service))) }

/-- File of the client: the resources' implementations, then the client's class. -/
def clientFile (r : Registry) (service : Service) : Traced Fault Source.File := do
  let objects ← ClientMethod.objects r service
  return (objects.map (·.withRank 1) ++ [clientClass service]).foldl
    Source.File.addClass { name := "client.py", imports := [Support.clientImports] }

/-! ## 4. Routes and the entry -/

/-- File of the routes. -/
def routesFile (r : Registry) (service : Service) : Except DescriptionFault Source.File := do
  let text := Route.table (← Route.all r service)
  return Source.File.addBlock { name := "routes" }
    (.ofCode (String.ofList (dropEndWhile (· = '\n') text.toList)))

/-- File through which a client is imported. -/
def entryFile : Source.File :=
  { name := "__init__.py"
    imports := ["from .client import ApiClient", "from . import errors, models"]
    blocks := [.ofCode "__all__ = [\"ApiClient\", \"errors\", \"models\"]"] }

/-! ## 5. The whole -/

/-- Checks that no two resources share a class name; `seen` holds the names so far, each
with its resource. -/
def checkResources (seen : Table String) : List Resource → Except DescriptionFault Unit
  | [] => .ok ()
  | resource :: rest =>
    let name := ClientMethod.traitName resource
    match Table.get? seen name with
    | some other => .error ⟨.resourceClassShared name other, { resource := .text resource.plural }⟩
    | none => checkResources (seen ++ [(name, resource.plural)]) rest

/-- Project of a service whose registry is built. -/
def generate (r : Registry) (service : Service) (o : Origin) : Traced Fault Source.Project := do
  let known {α : Type} (x : Except DescriptionFault α) : Traced Fault α :=
    Traced.lift (x.mapError DescriptionFault.raised)
  known (checkResources [] service.sortedResources)
  let config ← Traced.lift (configFiles r.settings o)
  let models ← known (modelsFile r service)
  let errors ← known (errorsFile r service)
  let interfaces ← interfacesFile r service
  let client ← clientFile r service
  let routes ← known (routesFile r service)
  return { name := snakeCase service.name
           files := supportFile r.settings service ::
             config ++ [models, errors, interfaces, client, routes, entryFile] }

/-- Project of a service. -/
def ofService (service : Service) (s : Settings) (o : Origin) : Traced Fault Source.Project := do
  let r ← Traced.lift ((Registry.ofService service s).mapError DescriptionFault.raised)
  generate r service o

/-- Project of a description document. -/
def ofDocument (document : Document) (s : Settings) (o : Origin) : Traced Fault Source.Project := do
  let service ← Traced.lift (Service.ofDocument document)
  ofService service s o

end Package

end ClientGen
