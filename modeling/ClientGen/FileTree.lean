import ClientGen.Table
import ClientGen.Text.Charset
import ClientGen.Text.Split

/-!
# File trees

Files and directories below a root, named by paths. The text of a path is followed name by
name from the root or from a working directory; empty names and single points stay where
they are and two points go up, but each of them asks for a directory to stand in. This file
fixes

* texts of paths: cutting them, putting them together, making them absolute;
* the refusals: asking for what is not there, or of the wrong kind;
* trees: following paths, looking, writing, making directories.
-/
namespace ClientGen

open ClientGen.Text

/-! ## 1. Texts of paths -/

/-- Names on the way from the root to a file or directory. -/
abbrev Path := List String

namespace Path

/-- Text of a path with another one below it. -/
def below (directory name : String) : String :=
  if directory = "" || endsWith directory "/" then directory ++ name else directory ++ "/" ++ name

/-- Text of the directory that a path's text names something in, and the name. -/
def split (s : String) : String × String :=
  let cs := s.toList.reverse
  let name := (cs.takeWhile (· ≠ '/')).reverse
  let upTo := cs.dropWhile (· ≠ '/')
  let directory := if upTo.all (· = '/') then upTo else upTo.dropWhile (· = '/')
  (String.ofList directory.reverse, String.ofList name)

/-- Text of the directory that a path's text names something in. -/
def directoryOf (s : String) : String := (split s).1

/-- Path after one more name of an absolute text. -/
def step (p : Path) (name : String) : Path :=
  if name = "" || name = "." then p else if name = ".." then p.dropLast else p ++ [name]

/-- Shortest absolute text of a path that is seen from a directory. Two slashes in front
stay two. -/
def absolute (directory s : String) : String :=
  let whole := if startsWith s "/" then s else below directory s
  let slashes := if startsWith whole "//" && !startsWith whole "///" then "//" else "/"
  slashes ++ join "/" ((pieces '/' whole).foldl step [])

end Path

/-! ## 2. Refusals -/

/-- Why a file or directory is refused. -/
inductive Refusal where
  | missing | alreadyThere | noDirectory | isDirectory | nameTooLong
  /-- Half of a pair cannot be part of a path. -/
  | halfCharacter
  /-- A zero character cannot be part of a path. -/
  | zeroCharacter
  deriving DecidableEq, Repr

/-- A refusal with the path that was asked for. -/
structure FileFault where
  refusal : Refusal
  path : String
  deriving DecidableEq, Repr

/-- Wording of a fault. -/
def FileFault.message (f : FileFault) : String :=
  match f.refusal with
  | .missing => "[Errno 2] No such file or directory: " ++ quoted f.path
  | .alreadyThere => "[Errno 17] File exists: " ++ quoted f.path
  | .noDirectory => "[Errno 20] Not a directory: " ++ quoted f.path
  | .isDirectory => "[Errno 21] Is a directory: " ++ quoted f.path
  | .nameTooLong => "[Errno 36] File name too long: " ++ quoted f.path
  | .halfCharacter => ((Charset.whole.foreignRow? f.path).map (·.message)).getD ""
  | .zeroCharacter => "embedded null byte"

/-! ## 3. Trees -/

/-- What a path leads to. -/
inductive Entry where
  | absent
  | file (text : String)
  | directory
  deriving DecidableEq, Repr

/-- Files with their texts, and directories, by path. -/
structure FileTree where
  files : List (Path × String) := []
  directories : List Path := []

namespace FileTree

/-- Entry at a path. -/
def entryAt (t : FileTree) (p : Path) : Entry :=
  match t.files.lookup p with
  | some text => .file text
  | none => if p = [] || t.directories.contains p then .directory else .absent

/-- Most bytes of a name. -/
def maxNameLength : Nat := 255

/-- Most bytes of the text of a path. -/
def maxPathLength : Nat := 4095

/-- Path that names lead to from a directory. All but the last must lead to directories. -/
def follow (t : FileTree) (here : Path) : List String → Except Refusal Path
  | [] => .ok here
  | name :: rest =>
    match t.entryAt here with
    | .absent => .error .missing
    | .file _ => .error .noDirectory
    | .directory =>
      if maxNameLength < name.utf8ByteSize then .error .nameTooLong
      else follow t (Path.step here name) rest

/-- Names of a path's text, and the path from which they lead. -/
def startOf (workingDirectory : Path) (s : String) : Path × List String :=
  if startsWith s "/" then ([], pieces '/' s) else (workingDirectory, pieces '/' s)

/-- Path that a text leads to, whether or not something is there. -/
def resolve (t : FileTree) (workingDirectory : Path) (s : String) : Except Refusal Path :=
  if s = "" then .error .missing
  else if maxPathLength < s.utf8ByteSize then .error .nameTooLong
  else
    let (start, names) := startOf workingDirectory s
    t.follow start names

/-- Entry that the text of a path leads to. -/
def look (t : FileTree) (workingDirectory : Path) (s : String) : Entry :=
  match t.resolve workingDirectory s with
  | .ok p => t.entryAt p
  | .error _ => .absent

/-- Directory in which something is to be put, and its name; slashes at the end of the text
do not count. A name that is none, of points or nothing at all, is left out. -/
def resolvePlace (t : FileTree) (workingDirectory : Path) (s : String) :
    Except Refusal (Path × Option String) := do
  if s = "" then throw .missing
  if maxPathLength < s.utf8ByteSize then throw .nameTooLong
  let (start, names) := startOf workingDirectory s
  let names := (names.reverse.dropWhile (· = "")).reverse
  let place ← t.follow start names.dropLast
  match t.entryAt place, names.getLast? with
  | .absent, _ => throw .missing
  | .file _, _ => throw .noDirectory
  | .directory, none => return (place, none)
  | .directory, some name =>
    if maxNameLength < name.utf8ByteSize then throw .nameTooLong
    else return (place, if name = "." || name = ".." then none else some name)

/-- Why a text is no path at all: it has half of a pair, or a zero character. -/
def unusable? (s : String) : Option Refusal :=
  if s.toList.any isStandIn then some .halfCharacter
  else if s.toList.contains '\x00' then some .zeroCharacter
  else none

/-- Tree with a text put at a path. -/
def put (t : FileTree) (p : Path) (text : String) : FileTree :=
  if t.files.any (·.1 = p) then
    { t with files := t.files.map fun e => if e.1 = p then (p, text) else e }
  else { t with files := t.files ++ [(p, text)] }

/-- Tree with a text written. -/
def write (t : FileTree) (workingDirectory : Path) (s text : String) : Except FileFault FileTree :=
  match unusable? s with
  | some refusal => .error ⟨refusal, s⟩
  | none =>
    match t.resolvePlace workingDirectory s with
    | .error refusal => .error ⟨refusal, s⟩
    | .ok (_, none) => .error ⟨.isDirectory, s⟩
    | .ok (place, some name) =>
      if t.entryAt (place ++ [name]) = .directory || endsWith s "/" then .error ⟨.isDirectory, s⟩
      else .ok (t.put (place ++ [name]) text)

/-- Tree with one directory made. -/
def makeDirectory (t : FileTree) (workingDirectory : Path) (s : String) :
    Except FileFault FileTree :=
  match unusable? s with
  | some refusal => .error ⟨refusal, s⟩
  | none =>
    match t.resolvePlace workingDirectory s with
    | .error refusal => .error ⟨refusal, s⟩
    | .ok (_, none) => .error ⟨.alreadyThere, s⟩
    | .ok (place, some name) =>
      if t.entryAt (place ++ [name]) = .absent then
        .ok { t with directories := t.directories ++ [place ++ [name]] }
      else .error ⟨.alreadyThere, s⟩

/-- Tree of a working directory with files in it, and the directories that they lie in. -/
def ofFiles (workingDirectory : Path) (files : List (String × String)) : FileTree :=
  let withAbove (t : FileTree) (p : Path) : FileTree :=
    { t with directories := t.directories ++
        ((List.range p.length).map p.take).filter fun q => q ≠ [] && !t.directories.contains q }
  let start := withAbove { directories := [workingDirectory] } workingDirectory
  files.foldl (fun t e =>
    let p := (pieces '/' e.1).foldl Path.step workingDirectory
    (withAbove t p).put p e.2) start

/-- Texts of the paths of all files below a directory, seen from it. -/
def names (t : FileTree) (directory : Path) : List String :=
  (t.files.filter fun e => directory.isPrefixOf e.1).map fun e =>
    join "/" (e.1.drop directory.length)

end FileTree

end ClientGen
