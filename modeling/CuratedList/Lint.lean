import CuratedList.Entry
import CuratedList.Scope
import CuratedList.Text.Position

/-! # Linting a document

Every entry of every selected list is checked, list by list, and each rejected entry gives one
diagnostic.
-/

namespace CuratedList
set_option autoImplicit false

/-- A reported violation, with the position of its span's start. -/
structure Diagnostic where
  kind : ViolationKind
  message : String
  span : Span
  position : Text.Position
  deriving DecidableEq, Repr

namespace Diagnostic

/-- The diagnostic of a violation found in `source`. -/
def ofViolation (source : List Char) (v : Violation) : Diagnostic where
  kind := v.kind
  message := v.kind.message
  span := v.span
  position := .ofOffset source v.span.start

end Diagnostic

/-- A place that takes diagnostics one at a time. -/
structure Sink (σ : Type) where
  report : σ → Diagnostic → σ

/-- A list that grows at its end. -/
def Sink.list : Sink (List Diagnostic) := ⟨fun ds d => ds ++ [d]⟩

/-- How documents are checked: what the rules consult, and whether a table of contents is skipped. -/
structure Linter where
  context : Context
  respectContents : Bool := true

namespace Linter

/-- The violation of an entry, if there is one. -/
def violation? (linter : Linter) (item : Item) : Option Violation :=
  match validateEntry linter.context item with
  | .ok () => none
  | .error v => some v

/-- Checks one entry. A violation is reported and counted. -/
def checkEntry {σ : Type} (linter : Linter) (sink : Sink σ) (source : List Char) (state : σ × Nat)
    (item : Item) : σ × Nat :=
  match linter.violation? item with
  | none => state
  | some v => (sink.report state.1 (.ofViolation source v), state.2 + 1)

/-- Checks the entries of a document that was read from `source`, list by list. Gives the sink with what
was reported, and the number of reports. -/
def lintInto {σ : Type} (linter : Linter) (sink : Sink σ) (source : List Char) (doc : Document)
    (held : σ) : σ × Nat :=
  (selectLists doc linter.respectContents).foldl
    (fun state list => list.1.foldl (linter.checkEntry sink source) state) (held, 0)

/-- The diagnostics of a document that was read from `source`. -/
def lintDocument (linter : Linter) (source : List Char) (doc : Document) : List Diagnostic :=
  (linter.lintInto .list source doc []).1

end Linter
end CuratedList
