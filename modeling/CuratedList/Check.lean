import CuratedList.Files
import CuratedList.Identifiers
import CuratedList.Lint
import CuratedList.Markdown.Tree
import CuratedList.Url

/-! # Checking files

The standard linter, and what it says about texts and files.
-/

namespace CuratedList
set_option autoImplicit false

/-- The judgements of the standard rules, with the words of a list as identifiers. -/
def Context.standard (identifiers : Identifiers) : Context where
  isAbsoluteUrl := Url.isAbsolute
  emoji := Text.unicodeEmoji
  casing := Text.CaseStyle.ofWord
  isAllowed := identifiers.contains

/-- The diagnostics of a Markdown text. -/
def Linter.lintText (linter : Linter) (source : String) : List Diagnostic :=
  linter.lintDocument source.toList (.ofMarkdown source)

variable {m : Type → Type} [Monad m]

/-- The text of a file. -/
def Files.readOrReport (files : Files m) (path : String) : m (Except Unreadable String) := do
  match ← files.readText path with
  | .ok text => return .ok text
  | .error cause => return .error ⟨path, cause⟩

/-- The diagnostics of a Markdown file. -/
def Linter.lintFile (linter : Linter) (files : Files m) (path : String) :
    m (Except Unreadable (List Diagnostic)) := do
  match ← files.readOrReport path with
  | .ok source => return .ok (linter.lintText source)
  | .error u => return .error u

/-- Adds the words of a file. -/
def Identifiers.extendFromFile (ids : Identifiers) (files : Files m) (path : String) :
    m (Except Unreadable Identifiers) := do
  match ← files.readOrReport path with
  | .ok content => return .ok (ids.extend (wordsOfFile content))
  | .error u => return .error u

end CuratedList
