import CuratedList.Run

/-! # The program

Reads the arguments, runs on the file system and the environment of the process, prints the report, and
exits with 0 if there are no problems, 1 if there are some and 2 on failure.
-/

namespace CuratedList
set_option autoImplicit false

/-- What an error of the system means for a file. -/
def FileError.ofSystem : IO.Error → FileError
  | .noFileOrDirectory .. => .notFound
  | .alreadyExists .. => .alreadyExists
  | .inappropriateType .. => .notDirectory
  | e => .other (toString e)

/-- Asks the system, with its errors as values. -/
def askSystem {α : Type} (ask : IO α) : IO (Except FileError α) := do
  try return .ok (← ask)
  catch e => return .error (.ofSystem e)

/-- What a path leads to on disk. -/
def kindOnDisk? (path : String) : IO (Option FileKind) := do
  match ← askSystem (do return (← (← IO.FS.realPath path).metadata).type) with
  | .ok .dir => return some .directory
  | .ok _ => return some .file
  | .error _ => return none

/-- The file system of the process. No path is longer than 4096 bytes, so no directory lies deeper than
half of that. -/
def filesOnDisk : Files IO where
  kind? := kindOnDisk?
  read path := do
    if (← kindOnDisk? path) == some .directory then return .error .isDirectory
    askSystem (IO.FS.readBinFile path)
  entries path := askSystem do
    let found ← (← IO.FS.realPath path).readDir
    found.toList.mapM fun entry => do
      let kind ← kindOnDisk? (Path.join path entry.fileName)
      return (entry.fileName, kind.getD .file)
  depth := 2048

/-- The environment of the process. -/
def processEnvironment : IO (Environment IO) := do
  return { home? := ← IO.getEnv "HOME", valueOf? := fun name => IO.getEnv name }

/-- What the program prints about a command line that does not start a run, and how it exits. -/
def Stop.report : Stop → String × UInt32
  | .version => (versionLine, 0)
  | .help =>
    ("Usage: entrylint [--config PATH] [--no-contents-scope] [--format text|json] " ++
      "[--identifier WORD]... [FILE]...\n", 0)
  | .unknownArgument => ("error: unexpected argument\n", 2)
  | .invalidValue => ("error: a value is missing or not valid\n", 2)
  | .repeated => ("error: an argument cannot be used multiple times\n", 2)
  | .unwantedValue => ("error: an argument takes no value\n", 2)

end CuratedList

open CuratedList

/-- Runs the command line of the process. -/
def main (arguments : List String) : IO UInt32 := do
  match Options.ofArguments arguments with
  | .error stop =>
    let (text, code) := stop.report
    if code == 0 then IO.print text else IO.eprint text
    return code
  | .ok options =>
    let outcome ← run filesOnDisk (← processEnvironment) options
    for warning in outcome.warnings do
      IO.eprintln s!"Warning: {warning}"
    IO.print outcome.written
    match outcome.result with
    | .error e =>
      IO.eprintln s!"Error: {e.message}"
      return 2
    | .ok problems => return if problems == 0 then 0 else 1
