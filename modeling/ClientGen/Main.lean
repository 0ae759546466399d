import ClientGen.CommandLine

/-!
# The program in a terminal

The shell of a terminal: files of the file system, lines of the standard streams. It
fetches no pages, so every address counts as unreachable.
-/
namespace ClientGen.Terminal

/-- Number by which the operating system names an error. -/
def errorCode : IO.Error → UInt32
  | .alreadyExists _ code _ => code
  | .inappropriateType _ code _ => code
  | .noFileOrDirectory _ code _ => code
  | .permissionDenied _ code _ => code
  | .otherError code _ => code
  | _ => 2

/-- Refusal of an error number. -/
def refusalOf (code : UInt32) : Refusal :=
  if code = 17 then .alreadyThere
  else if code = 20 then .noDirectory
  else if code = 21 then .isDirectory
  else if code = 36 then .nameTooLong
  else .missing

/-- Action whose errors are refusals of a path. -/
def refusing (path : String) (act : IO Unit) : IO (Except FileFault Unit) := do
  try
    act
    return .ok ()
  catch e => return .error ⟨refusalOf (errorCode e), path⟩

/-- What a path leads to. -/
def look (path : String) : IO Entry := do
  try
    return .file (← IO.FS.readFile path)
  catch e => return if refusalOf (errorCode e) = .isDirectory then .directory else .absent

/-- Prints a text at once. -/
def put (text : String) : IO Unit := do
  let out ← IO.getStdout
  out.putStr text
  out.flush

/-- Next line of the standard input, without its end. -/
def ask : IO (Option String) := do
  let line ← (← IO.getStdin).getLine
  return if line = "" then none
    else some (if Text.endsWith line "\n" then Text.dropEnd 1 line else line)

/-- Shell of a terminal. -/
def shell : Shell IO where
  look := look
  write path text := refusing path (IO.FS.writeFile path text)
  makeDirectory path := refusing path (IO.FS.createDir path)
  fetch _ := return none
  put := put
  ask := ask
  workingDirectory := return (← IO.currentDir).toString

/-- Most questions that are asked before a run gives up. -/
def maxQuestions : Nat := 1000000

/-- Runs the program and gives its code; what it does not report itself is code one. -/
def run (words : List String) : IO UInt32 := do
  match ← CommandLine.main shell maxQuestions words with
  | .ok _ => return 0
  | .error (.exit code) => return code.toUInt32
  | .error (.fault _) => return 1

end ClientGen.Terminal

/-- Entry of the program. -/
def main (words : List String) : IO UInt32 := ClientGen.Terminal.run words
