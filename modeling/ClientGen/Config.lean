import ClientGen.Dialect
import ClientGen.Shell
import ClientGen.Toml.Reader
import ClientGen.Toml.Writer

/-!
# Configurations

A configuration says from where, where to and in which dialect a client is generated. It
is kept in a file, whose values may be of any kind; nothing in one of the three places
means that it is not set. This file fixes

* configurations and what they are kept as;
* loading from a file, and saving;
* what arguments change, and the settings of the dialect.
-/
namespace ClientGen

open ClientGen.Text

/-- Directory for the client when none is given. -/
def defaultDirname : String := "api_client"

/-- Name of the configuration file. -/
def configFile : String := "apidoc.toml"

/-- A configuration. -/
structure Config where
  url : Value := .null
  dirname : Value := .null
  dialect : Value := .text Dialect.aiohttp.name

namespace Config

/-! ## 1. Keeping -/

/-- Record that a configuration is kept as. -/
def toRecord (c : Config) : Record :=
  [("url", c.url), ("dirname", c.dirname), ("dialect", c.dialect)]

/-- Configuration of a record; the source has no default. -/
def ofRecord (r : Record) : Config :=
  { url := (Table.get? r "url").getD .null
    dirname := (Table.get? r "dirname").getD (.text defaultDirname)
    dialect := (Table.get? r "dialect").getD (.text Dialect.aiohttp.name) }

/-! ## 2. Files -/

variable {m : Type → Type} [Monad m]

/-- Outcome of loading: there is no file, it cannot be read, or a configuration. -/
inductive Loaded where
  | absent
  | unreadable
  | config (c : Config)

/-- Path of the configuration file: one in the search directory goes first. -/
def locate (sh : Shell m) (path : String) (searchDirectory : Option String) : m String := do
  match searchDirectory with
  | none => return path
  | some directory =>
    let inside := Path.below directory configFile
    if directory ≠ "" && (← sh.isDirectory directory) && (← sh.isThere inside) then return inside
    else return path

/-- Configuration kept in a text. -/
def ofText (text : String) : Except Fault Loaded :=
  match Toml.read text with
  | .ok r => .ok (.config (ofRecord r))
  | .error .malformed => .ok .unreadable
  | .error .outside => .error .outOfRange
  | .error .unfit => .error .wrongKind
  | .error .noSuchPart => .error .noSuchPart
  | .error .unset => .error .unsetValue
  | .error .tooLarge => .error .numberTooLarge
  | .error .tooDeep => .error (.document .tooDeep)

/-- Loads a configuration. -/
def load (sh : Shell m) (path : String) (searchDirectory : Option String) :
    m (Except Fault Loaded) := do
  let path ← locate sh path searchDirectory
  if !(← sh.isThere path) then return .ok .absent
  match ← sh.read path with
  | .ok text => return ofText text
  | .error _ => return .ok .unreadable

/-- Saves a configuration. -/
def save (sh : Shell m) (c : Config) (path : String) : m (Except Fault Unit) :=
  sh.writeText path (Toml.write c.toRecord)

/-! ## 3. Use -/

/-- First value if it is given, else the second. -/
def prefer (a b : Value) : Value := if a.isGiven then a else b

/-- Configuration with what the arguments give in place of its own. -/
def merge (c : Config) (url dirname dialect : Value) : Config :=
  { url := prefer url c.url, dirname := prefer dirname c.dirname, dialect := prefer dialect c.dialect }

/-- Settings of the dialect. -/
def settings (c : Config) : Except Fault Settings :=
  match c.dialect with
  | .text name => Dialect.get name
  | .list _ | .record _ => .error .wrongKind
  | v => do throw (.unknownDialect (← v.shown))

end Config

end ClientGen
