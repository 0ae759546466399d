import ClientGen.CommandLine.Options
import ClientGen.Config
import ClientGen.Loading
import ClientGen.Package

/-!
# The command line program

The program makes a configuration, from a file, from options, or from both, and generates
the client that it asks for. Files are written only after the whole client is generated.
This file fixes

* endings: a code, or a fault that the program does not report itself;
* the configuration: which of file and options counts, asking where both do;
* generating and saving, and what faults are reported as;
* the program, which takes what loads a description as a parameter.
-/
namespace ClientGen

open ClientGen.Text

namespace CommandLine

/-! ## 1. Endings -/

/-- How a run ends before its last step. -/
inductive Ending where
  | exit (code : Nat)
  | fault (f : Fault)
  deriving DecidableEq, Repr

variable {m : Type → Type} [Monad m]

/-- A run: it may end early. -/
abbrev Run (m : Type → Type) := ExceptT Ending m

/-- Prints a line. -/
def say (sh : Shell m) (line : String) : Run m Unit := sh.say line

/-- Stops at a fault. -/
def orFault (x : m (Except Fault α)) : Run m α := do
  match ← x with
  | .ok a => return a
  | .error f => throw (.fault f)

/-! ## 2. Questions -/

/-- Answers that mean yes. -/
def yesWords : List String := ["y", "yes", "да", ""]

/-- Answers that mean no. -/
def noWords : List String := ["n", "no", "нет"]

/-- Meaning of an answer. -/
def meaningOf (line : String) : Option Bool :=
  let word := trim (toLower line)
  if yesWords.contains word then some true
  else if noWords.contains word then some false
  else none

/-- Asks a question until the answer means yes or no; with no tries left the input counts
as ended. -/
def confirm (sh : Shell m) (question : String) : Nat → Run m Bool
  | 0 => throw (.fault .inputEnded)
  | tries + 1 => do
    sh.put (question ++ " (y/n): ")
    match ← sh.ask with
    | none => throw (.fault .inputEnded)
    | some line =>
      match meaningOf line with
      | some b => return b
      | none => do
        say sh "Введите y/n"
        confirm sh question tries

/-! ## 3. The configuration -/

/-- Value of an option. -/
def valueOf : Option String → Value
  | some s => .text s
  | none => .null

/-- Option that is given and not empty, else a default. -/
def givenOr (o : Option String) (default : String) : Value := .text ((o.filter (· ≠ "")).getD default)

/-- Configuration of options alone. -/
def configOf (o : Options) : Config :=
  { url := valueOf o.url
    dirname := givenOr o.dirname defaultDirname
    dialect := givenOr o.dialect Dialect.aiohttp.name }

/-- Configuration of a file, changed by options. -/
def merged (c : Config) (o : Options) : Config :=
  c.merge (valueOf o.url) (valueOf o.dirname) (valueOf o.dialect)

/-- Prints a line that ends in a value. -/
def sayValue (sh : Shell m) (label : String) (v : Value) : Run m Unit := do
  say sh (label ++ (← orFault (pure v.shown)))

/-- Shows the configuration of a file. -/
def showConfig (sh : Shell m) (c : Config) : Run m Unit := do
  say sh ("🔧 Найден конфиг файл " ++ configFile ++ ":")
  sayValue sh "   URL: " c.url
  sayValue sh "   Директория: " c.dirname
  sayValue sh "   Диалект: " c.dialect
  say sh ""

/-- Configuration of file and options. Where both say something the file counts if forced
or confirmed. -/
def chooseConfig (sh : Shell m) (tries : Nat) (o : Options) (loaded : Config.Loaded) :
    Run m Config := do
  let isGiven (s : Option String) : Bool := (valueOf s).isGiven
  match loaded with
  | .config c =>
    if isGiven o.url || isGiven o.dialect then
      showConfig sh c
      if o.force then return c
      else if ← confirm sh "Использовать конфиг из файла?" tries then return c
      else return merged c o
    else
      say sh ("📋 Используется конфиг из " ++ configFile)
      return merged c o
  | _ =>
    if isGiven o.url then return configOf o
    else
      say sh "❌ Ошибка: Укажите URL или создайте конфиг с --init-config"
      throw (.exit 1)

/-! ## 4. Generating and saving -/

/-- Text that must be one. -/
def textOrFault (otherwise : Fault) : Value → Except Fault String
  | .text s => .ok s
  | _ => .error otherwise

/-- Project that a configuration asks for, of the description that is loaded. -/
def generate (sh : Shell m) (load : Loader m) (c : Config) : Run m Source.Project := do
  sayValue sh "🚀 Генерация клиента из " c.url
  say sh "📥 Загрузка описания сервиса..."
  let source ← orFault (pure (textOrFault .noSuchPart c.url))
  let document ← orFault (load source)
  say sh "⚙️ Генерация кода..."
  let settings ← orFault (pure c.settings)
  orFault (pure (Package.ofDocument document settings ⟨c.url, c.dirname⟩).outcome)

/-- Writes the files of a project below a directory. -/
def saveFiles (sh : Shell m) (directory : String) : List Source.File → Run m Unit
  | [] => return ()
  | f :: rest => do
    let path := Path.below directory f.name
    orFault (return (← sh.makeDirectories (Path.directoryOf path)).mapError .file)
    orFault (sh.writeText path (.ok f.text))
    saveFiles sh directory rest

/-- Saves a project and says where. -/
def save (sh : Shell m) (directory : Value) (p : Source.Project) : Run m Unit := do
  say sh ("💾 Сохранение " ++ toString p.files.length ++ " файлов...")
  let directory ← orFault (pure (textOrFault .wrongKind directory))
  saveFiles sh directory p.files
  say sh "✅ Генерация завершена успешно!"
  let workingDirectory ← sh.workingDirectory
  say sh ("📦 Клиент создан в: " ++ Path.absolute workingDirectory directory)

/-! ## 5. Faults -/

/-- What a fault is reported as; some are not reported. -/
def report? : Fault → Option String
  | .description f => some ("❌ Ошибка в описании сервиса: " ++ f.message)
  | .danglingReference | .endlessReference | .inputEnded | .noSuchPart | .wrongKind
  | .nameMissing | .outOfRange | .address _ | .document .tooDeep | .unsetValue
  | .numberTooLarge => none
  | f => some ("❌ Ошибка генерации: " ++ f.message)

/-- Run whose faults are reported. -/
def reporting (sh : Shell m) (x : Run m Unit) : Run m Unit :=
  tryCatch x fun e =>
    match e with
    | .exit code => throw (.exit code)
    | .fault f =>
      match report? f with
      | some line => do
        say sh line
        throw (.exit 1)
      | none => throw (.fault f)

/-! ## 6. The program -/

/-- Saves the configuration of options. -/
def initConfig (sh : Shell m) (o : Options) : Run m Unit := do
  orFault (Config.save sh (configOf o) configFile)
  say sh ("✅ Создан конфиг файл " ++ configFile)

/-- Generates the client that file and options ask for. -/
def generateClient (sh : Shell m) (load : Loader m) (tries : Nat) (o : Options) : Run m Unit := do
  let loaded ← orFault (Config.load sh configFile o.dirname)
  let c ← chooseConfig sh tries o loaded
  if !c.url.isGiven then
    say sh "❌ Ошибка: URL не указан ни в конфиге, ни в аргументах"
    throw (.exit 1)
  let directory := Config.prefer c.dirname (.text defaultDirname)
  sayValue sh "📁 Генерация в папку: " directory
  reporting sh do save sh directory (← generate sh load c)

/-- The program on the words of a command line, over any loader of descriptions; `tries`
bounds the questions. -/
def program (sh : Shell m) (load : Loader m) (tries : Nat) (words : List String) :
    m (Except Ending Unit) :=
  ExceptT.run (match read words with
    | .misuse => throw (.exit 2)
    | .help => do
      say sh helpText
      throw (.exit 0)
    | .run o => if o.initConfig then initConfig sh o else generateClient sh load tries o)

/-- The whole program, which loads descriptions by its shell. -/
def main (sh : Shell m) (tries : Nat) (words : List String) : m (Except Ending Unit) :=
  program sh (Loading.document sh) tries words

end CommandLine

end ClientGen
