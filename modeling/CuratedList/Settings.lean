import CuratedList.Files.Search
import CuratedList.Files.Store
import CuratedList.Settings.Environment
import CuratedList.Text.Quoted
import CuratedList.Toml.Reader
import CuratedList.Toml.Writer

/-! # Settings

What a user can set for a project or for all of them: the files to check, more identifiers, and whether a
table of contents is skipped. Settings are kept in TOML documents.
-/

namespace CuratedList
set_option autoImplicit false

/-- The settings; `files` are path patterns. -/
structure Settings where
  files : List String := ["README.md"]
  identifiers : List String := []
  identifiersFile : Option String := none
  respectContents : Bool := true
  deriving DecidableEq, Repr

/-! ## Failures -/

/-- Why settings cannot be used. -/
inductive SettingsError where
  | unreadable (path : String) (cause : FileError)
  | malformed (path : String)
  | notFound (path : String)
  | badPattern (pattern : String) (cause : PatternError)
  deriving DecidableEq, Repr

namespace SettingsError

/-- The text of what caused a failure, if something else did. -/
def cause? : SettingsError → Option String
  | .unreadable _ cause => some cause.message
  | .badPattern _ cause => some cause.message
  | .malformed _ | .notFound _ => none

/-- The text of a failure. -/
def message : SettingsError → String
  | .unreadable path cause => s!"Failed to read config file at {path}: {cause.message}"
  | .malformed path => s!"Failed to parse config file at {path}"
  | .notFound path => s!"Config file not found at {path}"
  | .badPattern pattern cause => s!"Invalid file pattern {Text.quoted pattern}: {cause.message}"

end SettingsError

namespace Settings

/-! ## Documents -/

/-- The text of a value. -/
def text? : Toml.Value → Option String
  | .text s => some s
  | _ => none

/-- The texts of an array. -/
def texts? : Toml.Value → Option (List String)
  | .array _ items => items.mapM text?
  | _ => none

/-- The truth of a value. -/
def boolean? : Toml.Value → Option Bool
  | .boolean b => some b
  | _ => none

/-- The value of a key; a key that is not there has the given one. -/
def field? {α : Type} (entries : Toml.Entries) (key : String) (read? : Toml.Value → Option α)
    (absent : α) : Option α :=
  match entries.get? key with
  | none => some absent
  | some v => read? v

/-- The settings in the entries of a document. Keys that are not there keep their defaults, and other
keys do not count. -/
def ofEntries? (entries : Toml.Entries) : Option Settings := do
  let defaults : Settings := { }
  return {
    files := ← field? entries "files" texts? defaults.files
    identifiers := ← field? entries "identifiers" texts? defaults.identifiers
    identifiersFile :=
      ← field? entries "identifiers_file" (fun v => (text? v).map some) defaults.identifiersFile
    respectContents :=
      ← field? entries "respect_contents" boolean? defaults.respectContents }

/-- The settings of a document. -/
def ofToml? (document : String) : Option Settings := (Toml.read? document).bind ofEntries?

/-- The document of settings. -/
def toToml (s : Settings) : String :=
  let texts := fun ts : List String => Toml.writtenTexts (ts.map String.toList)
  let file :=
    match s.identifiersFile with
    | some path => Toml.writtenLine "identifiers_file" (Toml.writtenText path.toList)
    | none => []
  String.ofList (Toml.writtenLine "files" (texts s.files) ++
    Toml.writtenLine "identifiers" (texts s.identifiers) ++ file ++
    Toml.writtenLine "respect_contents" (toString s.respectContents).toList)

/-! ## Loading -/

variable {m : Type → Type} [Monad m]

/-- The settings with the path of the words file expanded, if its variables are set. -/
def expanded (env : Environment m) (s : Settings) : m Settings := do
  match s.identifiersFile with
  | none => return s
  | some path => return { s with identifiersFile := some ((← env.expand? path).getD path) }

/-- The settings in a file; nothing if there is no file. -/
def load (files : Files m) (env : Environment m) (path : String) :
    m (Except SettingsError (Option Settings)) := do
  if ← files.pathExists path then
    match ← files.readText path with
    | .error cause => return .error (.unreadable path cause)
    | .ok document =>
      match ofToml? document with
      | some s => return .ok (some (← s.expanded env))
      | none => return .error (.malformed path)
  else return .ok none

/-- The name of the file with the settings of a project. -/
def projectFile : String := ".entrylint.toml"

/-- The path of the file with the settings of a user. -/
def userPath (env : Environment m) : String :=
  Path.join (String.ofList (env.expandHome "~/.config/entrylint".toList)) "config.toml"

/-- The settings of the first file that is there; the defaults if there is none. -/
def firstOf (files : Files m) (env : Environment m) : List String → m (Except SettingsError Settings)
  | [] => return .ok { }
  | path :: paths => do
    match ← load files env path with
    | .error e => return .error e
    | .ok (some s) => return .ok s
    | .ok none => firstOf files env paths

/-- The settings that are in force in a directory. A file that is asked for has to be there; without one
the project's settings come before the user's, and the defaults come last. -/
def discover (files : Files m) (env : Environment m) (dir : String) (explicit : Option String) :
    m (Except SettingsError Settings) := do
  match explicit with
  | none => firstOf files env [Path.join dir projectFile, userPath env]
  | some path =>
    match ← load files env path with
    | .error e => return .error e
    | .ok (some s) => return .ok s
    | .ok none => return .error (.notFound path)

/-! ## Saving -/

/-- The store with the settings written to a file, whose directories are made as far as they are
missing. -/
def save (s : Settings) (path : String) (store : Store) : Except FileError Store := do
  let store ←
    match Path.parent? path with
    | some dir => store.makePath dir
    | none => pure store
  store.write path s.toToml.toUTF8

end Settings
end CuratedList
