import ClientGen.Dialect
import ClientGen.Text.Digit
import ClientGen.Text.Split

/-!
# Command line options

Options start with two dashes, may be shortened as long as one option alone is meant, and
take their value from the next word or after an equals sign. No other words are accepted.
This file fixes

* the options and the words that name them;
* tokens: what each word of a command line is;
* reading: the options given, a request for help, or misuse.
-/
namespace ClientGen.CommandLine

open ClientGen.Text

/-! ## 1. Options -/

/-- Options of the command line. -/
inductive Flag where
  | help | url | dirname | dialect | initConfig | force
  deriving DecidableEq, Repr

/-- Words that name the options. -/
def flagWords : List (String × Flag) :=
  [("-h", .help), ("--help", .help), ("--url", .url), ("--dirname", .dirname),
   ("--dialect", .dialect), ("--init-config", .initConfig), ("--force", .force)]

/-- Tells whether an option has a value. -/
def Flag.hasValue : Flag → Bool
  | .url | .dirname | .dialect => true
  | _ => false

/-- Options given on a command line. -/
structure Options where
  url : Option String := none
  dirname : Option String := none
  dialect : Option String := none
  initConfig : Bool := false
  force : Bool := false
  deriving DecidableEq, Repr

/-! ## 2. Tokens -/

/-- What a word of a command line is. -/
inductive Token where
  | word (s : String)
  | flag (f : Flag) (value : Option String)
  | unknown
  | ambiguous
  deriving DecidableEq, Repr

/-- Word before an equals sign and what follows it. -/
def splitValue (s : String) : String × Option String :=
  match splitOn '=' s.toList with
  | a :: b :: rest => (String.ofList a, some (String.ofList (List.intercalate ['='] (b :: rest))))
  | _ => (s, none)

/-- Tells whether a word is a negative number; a line feed at its end does not count. -/
def isNegativeNumber (s : String) : Bool :=
  match (if endsWith s "\n" then dropEnd 1 s else s).toList with
  | '-' :: cs =>
    let isRow (ds : List Char) : Bool := !ds.isEmpty && ds.all fun c => (decimalValue? c).isSome
    let rest := cs.dropWhile (· ≠ '.')
    isRow cs || (rest.head? = some '.' && isRow (rest.drop 1)
      && (cs.takeWhile (· ≠ '.')).all fun c => (decimalValue? c).isSome)
  | _ => false

/-- Token of one dash and a letter with what stands behind them in the same word: more
letters of options of the same kind, or a value, which none of them has. -/
def shortToken (f : Flag) (attached : String) : Token :=
  if attached ≠ "" && attached.toList.all (· = 'h') then .flag f none else .flag f (some attached)

/-- Options that a shortened word may mean. After one dash only the first letter counts. -/
def candidates (s : String) : List Token :=
  let (name, value) := splitValue s
  if startsWith s "--" then
    (flagWords.filter fun w => startsWith w.1 name).map fun w => .flag w.2 value
  else
    flagWords.filterMap fun w =>
      if w.1 = String.ofList (s.toList.take 2) then some (shortToken w.2 (dropStart 2 s))
      else if startsWith w.1 s then some (.flag w.2 none)
      else none

/-- Token of a word. -/
def tokenOf (s : String) : Token :=
  let (name, value) := splitValue s
  if !startsWith s "-" || s = "-" then .word s
  else match flagWords.lookup s, flagWords.lookup name with
    | some f, _ => .flag f none
    | none, some f => if startsWith name "--" then .flag f value else shortToken f (value.getD "")
    | none, none =>
      match candidates s with
      | [one] => one
      | _ :: _ => .ambiguous
      | [] => if isNegativeNumber s || s.toList.contains ' ' then .word s else .unknown

/-- Tokens of a command line. Two dashes alone are no option, and no word after them is. -/
def tokensOf : List String → List Token
  | [] => []
  | "--" :: rest => .unknown :: rest.map .word
  | s :: rest => tokenOf s :: tokensOf rest

/-! ## 3. Reading -/

/-- Meaning of a command line. -/
inductive Meaning where
  | run (o : Options)
  | help
  | misuse
  deriving DecidableEq, Repr

/-- Options with the value of one set; a dialect must be known. -/
def setValue (o : Options) (v : String) : Flag → Option Options
  | .url => some { o with url := some v }
  | .dirname => some { o with dirname := some v }
  | .dialect => if (Dialect.all.map (·.name)).contains v then some { o with dialect := some v } else none
  | _ => none

/-- Options with one without a value set. -/
def setFlag (o : Options) : Flag → Options
  | .initConfig => { o with initConfig := true }
  | .force => { o with force := true }
  | _ => o

/-- Meaning of tokens after the options `o`; `stray` tells whether a token before them was
no option. -/
def readTokens (o : Options) (stray : Bool) : List Token → Meaning
  | [] => if stray then .misuse else .run o
  | .flag .help none :: _ => .help
  | .flag f (some v) :: rest =>
    match setValue o v f with
    | some o => readTokens o stray rest
    | none => .misuse
  | .flag f none :: rest =>
    if f.hasValue then
      match rest with
      | .word v :: rest =>
        match setValue o v f with
        | some o => readTokens o stray rest
        | none => .misuse
      | _ => .misuse
    else readTokens (setFlag o f) stray rest
  | _ :: rest => readTokens o true rest

/-- Meaning of a command line. -/
def read (words : List String) : Meaning :=
  let tokens := tokensOf words
  if tokens.contains .ambiguous then .misuse else readTokens {} false tokens

/-! ## 4. Help -/

/-- Text that a request for help is answered with. -/
def helpText : String := unlines
  ["usage: apidoc-client [-h] [--url URL] [--dirname DIRNAME]",
   "                     [--dialect \x7baiohttp,aiohttp-compat\x7d] [--init-config]",
   "                     [--force]",
   "",
   "Генерация Python клиента из описания сервиса",
   "",
   "options:",
   "  -h, --help            show this help message and exit",
   "  --url URL             URL или путь к JSON описанию сервиса",
   "  --dirname DIRNAME     Директория для генерации клиента",
   "  --dialect \x7baiohttp,aiohttp-compat\x7d",
   "                        Диалект генерируемого клиента",
   "  --init-config         Создать конфиг файл apidoc.toml",
   "  --force               Генерировать без подтверждения"]

end ClientGen.CommandLine
