import CuratedList.Settings

/-! # Files to check

The paths that the patterns of the settings stand for, pattern by pattern and each path once. A pattern
that is a plain name stands for itself when nothing matches, so that its absence can be reported.
-/

namespace CuratedList.Settings
set_option autoImplicit false

/-- What searches have found: the paths, each once, and the directories that could not be listed. -/
structure Targets where
  paths : List String := []
  skipped : List Unreadable := []

namespace Targets

/-- Adds a path unless it is there. -/
def addPath (t : Targets) (path : String) : Targets :=
  if t.paths.any (Path.same path) then t else { t with paths := t.paths ++ [path] }

/-- Adds what a search has found. -/
def add (t : Targets) : Except Unreadable String → Targets
  | .ok path => t.addPath path
  | .error u => { t with skipped := t.skipped ++ [u] }

end Targets

/-- The text about a directory that could not be listed. -/
def skippedMessage (u : Unreadable) : String := s!"Skipping {u.path}: {u.cause.message}"

/-- The pattern uses one of the signs of patterns. -/
def hasPatternSigns (pattern : String) : Bool :=
  pattern.toList.any fun c => c == '*' || c == '?' || c == '['

/-- A pattern seen from a directory. -/
def patternFrom (base pattern : String) : String :=
  let start := literalPattern base
  if start.isEmpty || Path.isAbsolute pattern then pattern
  else Path.withoutLastSlashes start ++ "/" ++ pattern

variable {m : Type → Type} [Monad m]

/-- Adds the paths that patterns stand for in a directory. A text that is no pattern ends the search, and
comes with what was found before. -/
def addTargets (files : Files m) (base : String) (t : Targets) :
    List String → m (Targets × Option SettingsError)
  | [] => return (t, none)
  | pattern :: patterns => do
    match PathPattern.ofText (patternFrom base pattern) with
    | .error cause => return (t, some (.badPattern pattern cause))
    | .ok p =>
      let found ← p.search files
      let next := found.foldl Targets.add t
      let matched := found.any fun f => f.toOption.isSome
      if matched || hasPatternSigns pattern then addTargets files base next patterns
      else addTargets files base (next.addPath (Path.join base pattern)) patterns

/-- The paths that the patterns of the settings stand for in a directory, and the directories that could
not be listed. -/
def targets (s : Settings) (files : Files m) (base : String) :
    m (Except SettingsError (List String) × List Unreadable) := do
  let (t, failure?) ← addTargets files base {} s.files
  match failure? with
  | some e => return (.error e, t.skipped)
  | none => return (.ok t.paths, t.skipped)

end CuratedList.Settings
