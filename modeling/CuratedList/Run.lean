import CuratedList.Check
import CuratedList.CommandLine
import CuratedList.Settings.Targets

/-! # Runs

What a command line does: find the settings, find the files, check each of them, and write one report.
A failure on the way leaves no report.
-/

namespace CuratedList
set_option autoImplicit false

/-- Why a run has no report. -/
inductive RunError where
  | settings (cause : SettingsError)
  | targets (cause : SettingsError)
  | noFiles
  | document (cause : Unreadable)
  deriving DecidableEq, Repr

namespace RunError

/-- A text, and the text of what caused it if something did. -/
def withCause (text : String) (cause? : Option String) : String :=
  match cause? with
  | some cause => s!"{text}: {cause}"
  | none => text

/-- The text of a failure, followed by its causes. -/
def message : RunError → String
  | .settings e => s!"Failed to load configuration: {withCause e.message e.cause?}"
  | .targets e => withCause e.message e.cause?
  | .noFiles => "No markdown files to lint"
  | .document u => s!"Failed to lint {u.path}: {withCause u.message (some u.cause.message)}"

end RunError

/-- What came of a run: the number of problems, what was written, and the texts of the warnings. -/
structure Outcome where
  result : Except RunError Nat
  written : String := ""
  warnings : List String := []

namespace Run

variable {m : Type → Type} [Monad m]

/-- The text about a words file that cannot be read. -/
def ignoredMessage (u : Unreadable) : String := s!"Ignoring identifiers file: {u.message}"

/-- The identifiers of a run: the well-known ones, those of the settings, the extra ones, and those of the
words file. A words file that cannot be read is reported and adds nothing. -/
def identifiers (files : Files m) (settings : Settings) (extra : List String) :
    m (Identifiers × List Unreadable) := do
  let ids := Identifiers.builtin.extend (settings.identifiers ++ extra)
  match settings.identifiersFile with
  | none => return (ids, [])
  | some path =>
    match ← ids.extendFromFile files path with
    | .ok ids => return (ids, [])
    | .error u => return (ids, [u])

/-- The reports about files, in their order; or the first file that cannot be read. -/
def reports (files : Files m) (linter : Linter) : List String → m (Except Unreadable (List FileReport))
  | [] => return .ok []
  | path :: paths => do
    match ← linter.lintFile files path with
    | .error u => return .error u
    | .ok diagnostics =>
      match ← reports files linter paths with
      | .error u => return .error u
      | .ok rest => return .ok (⟨path, diagnostics⟩ :: rest)

/-- Checks files and writes the report. -/
def check (files : Files m) (options : Options) (settings : Settings) (paths : List String) :
    m Outcome := do
  let (ids, ignored) ← identifiers files settings options.identifiers
  let linter : Linter :=
    ⟨Context.standard ids, settings.respectContents && !options.ignoreContents⟩
  let warnings := ignored.map ignoredMessage
  match ← reports files linter paths with
  | .error u => return { result := .error (.document u), warnings }
  | .ok rs =>
    return {
      result := .ok (Report.problemCount rs)
      written := Report.render (options.format.getD .text) rs
      warnings }

/-- The files of a run: those of the command line, or else those that the settings stand for. -/
def paths (files : Files m) (options : Options) (settings : Settings) :
    m (Except SettingsError (List String) × List Unreadable) :=
  if options.files.isEmpty then settings.targets files "" else return (.ok options.files, [])

end Run

/-- Runs a command line in the working directory. -/
def run {m : Type → Type} [Monad m] (files : Files m) (env : Environment m) (options : Options) :
    m Outcome := do
  match ← Settings.discover files env "" options.config with
  | .error e => return { result := .error (.settings e) }
  | .ok settings =>
    let (paths, skipped) ← Run.paths files options settings
    let warnings := skipped.map Settings.skippedMessage
    match paths with
    | .error e => return { result := .error (.targets e), warnings }
    | .ok [] => return { result := .error .noFiles, warnings }
    | .ok paths =>
      let outcome ← Run.check files options settings paths
      return { outcome with warnings := warnings ++ outcome.warnings }

/-- The name and version of the program, as a line. -/
def versionLine : String := "entrylint 0.1.0\n"

end CuratedList
