import DocumentQuery.Command.Run

/-!
# The program

Reads the command line, the files that it names and the environment, carries the command out and
prints the answer. Everything that is decided is decided in `DocumentQuery.Command`.
-/

namespace DocumentQuery.Program

/-- Reads a file, or tells why it cannot be read. -/
def readFile (path : String) : IO (Except FileError String) := do
  try
    match String.fromUTF8? (← IO.FS.readBinFile path) with
    | some text => return .ok text
    | none => return .error .notText
  catch
    | .noFileOrDirectory _ _ _ => return .error .notFound
    | .inappropriateType _ _ _ => return .error .isDirectory
    | e => return .error (.other (toString e))

/-- The files that an invocation can read. -/
def pathsOf (i : Command.Invocation) : List String :=
  let schema := match i.request with
    | .compile schema _ _ _ => [schema]
    | .shape schema _ => [schema]
    | .ddl schema => [schema]
    | .unknown _ => []
  i.config.getD Settings.defaultPath :: schema

/-- Reads all files of an invocation. -/
def readFiles (i : Command.Invocation) : IO Files := do
  let contents ← (pathsOf i).mapM fun path => return (path, ← readFile path)
  return fun path =>
    match contents.find? fun entry => entry.1 == path with
    | some (_, content) => content
    | none => .error .notFound

def readEnvironment : IO Environment := do
  let disabled ← IO.getEnv Settings.disabledVariable
  let size ← IO.getEnv Settings.sizeVariable
  return fun name =>
    if name = Settings.disabledVariable then disabled
    else if name = Settings.sizeVariable then size
    else none

/-- Carries out a command line; the result is the exit code. -/
def run (words : List String) : IO UInt32 := do
  match Command.Invocation.parse words with
  | .error e =>
    IO.eprintln e.name
    return if e = .help ∨ e = .version then 0 else 2
  | .ok i =>
    match Command.runAlone (← readFiles i) (← readEnvironment) i with
    | .error e =>
      IO.eprintln ("Error: " ++ e.message)
      return 1
    | .ok output =>
      IO.println output
      return 0

end DocumentQuery.Program

def main (words : List String) : IO UInt32 := DocumentQuery.Program.run words
