import ClientGen.FileTree
import ClientGen.Page

/-!
# Shells

A shell is what a run needs of its surroundings: files, pages, printed text, answers. The
operations are a parameter of every run, so that one and the same run can be made in a
terminal and in a session, a shell that is a value.
-/
namespace ClientGen

open ClientGen.Text

/-- Operations of a shell. -/
structure Shell (m : Type → Type) where
  /-- What the text of a path leads to. -/
  look : String → m Entry
  /-- Writes a file; the first text is its path. -/
  write : String → String → m (Except FileFault Unit)
  /-- Makes one directory. -/
  makeDirectory : String → m (Except FileFault Unit)
  /-- Page at an address, if the address answers. -/
  fetch : String → m (Option Page)
  /-- Prints a text as it is. -/
  put : String → m Unit
  /-- Next line of the input, if there is one. -/
  ask : m (Option String)
  /-- Text of the working directory. -/
  workingDirectory : m String

namespace Shell

variable {m : Type → Type} [Monad m]

/-- Prints a line. -/
def say (sh : Shell m) (line : String) : m Unit := sh.put (line ++ "\n")

/-- Tells whether a path leads to a directory. -/
def isDirectory (sh : Shell m) (path : String) : m Bool := do return (← sh.look path) = .directory

/-- Tells whether a path leads anywhere. -/
def isThere (sh : Shell m) (path : String) : m Bool := do return (← sh.look path) ≠ .absent

/-- Text with every line end written as a line feed. -/
def plainLines : List Char → List Char
  | '\r' :: '\n' :: cs => '\n' :: plainLines cs
  | '\r' :: cs => '\n' :: plainLines cs
  | c :: cs => c :: plainLines cs
  | [] => []

/-- Text of a file. -/
def read (sh : Shell m) (path : String) : m (Except FileFault String) := do
  match ← sh.look path with
  | .file text => return .ok (String.ofList (plainLines text.toList))
  | .directory => return .error ⟨.isDirectory, path⟩
  | .absent => return .error ⟨.missing, path⟩

/-- Writes a text to a file. A text that cannot be written leaves the file empty. -/
def writeText (sh : Shell m) (path : String) (text : Except Fault String) : m (Except Fault Unit) := do
  let text := text >>= fun s =>
    match Charset.whole.foreignRow? s with
    | some row => .error (.foreignText row)
    | none => .ok s
  match ← sh.write path (text.toOption.getD "") with
  | .error f => return .error (.file f)
  | .ok _ => return text.map fun _ => ()

/-- Makes a directory unless it is there. -/
def ensureDirectory (sh : Shell m) (path : String) : m (Except FileFault Unit) := do
  match ← sh.makeDirectory path with
  | .ok _ => return .ok ()
  | .error f =>
    let isUnusable := f.refusal = .zeroCharacter || f.refusal = .halfCharacter
    return if !isUnusable && (← sh.isDirectory path) then .ok () else .error f

/-- Makes a directory and all that it lies in. A point at the end of a path is there as soon
as what it lies in is there. The text of an outer directory is shorter, so its length
bounds the steps. -/
def makeDirectoriesWithin (sh : Shell m) : Nat → String → m (Except FileFault Unit)
  | 0, path => sh.ensureDirectory path
  | steps + 1, path => do
    let (outer, name) := match Path.split path with
      | (directory, "") => Path.split directory
      | parts => parts
    if outer = "" || name = "" || (← sh.isThere outer) then sh.ensureDirectory path
    else
      match ← makeDirectoriesWithin sh steps outer with
      | .ok _ => if name = "." then return .ok () else sh.ensureDirectory path
      | .error f =>
        if f.refusal = .alreadyThere then
          if name = "." then return .ok () else sh.ensureDirectory path
        else return .error f

/-- Makes a directory and all that it lies in. -/
def makeDirectories (sh : Shell m) (path : String) : m (Except FileFault Unit) :=
  sh.makeDirectoriesWithin path.length path

end Shell

/-! ## Sessions -/

/-- A session: a shell's surroundings as a value. -/
structure Session where
  files : FileTree := {}
  directory : Path := []
  pages : List (String × Page) := []
  input : List String := []
  output : String := ""

namespace Session

/-- Keeps a changed tree, or the fault. -/
def keep (x : Except FileFault FileTree) : StateM Session (Except FileFault Unit) := do
  match x with
  | .ok files =>
    modify ({ · with files })
    return .ok ()
  | .error f => return .error f

/-- Shell of sessions. -/
def shell : Shell (StateM Session) where
  look path := do
    let s ← get
    return s.files.look s.directory path
  write path text := do
    let s ← get
    keep (s.files.write s.directory path text)
  makeDirectory path := do
    let s ← get
    keep (s.files.makeDirectory s.directory path)
  fetch url := return (← get).pages.lookup url
  put text := modify fun s => { s with output := s.output ++ text }
  ask := do
    match (← get).input with
    | [] => return none
    | line :: rest =>
      modify ({ · with input := rest })
      return some line
  workingDirectory := return "/" ++ join "/" (← get).directory

/-- Lines of an input; what follows the last line end is a line unless it is empty. -/
def inputLines (text : String) : List String :=
  match (lines text).reverse with
  | "" :: before => before.reverse
  | all => all.reverse

end Session

end ClientGen
