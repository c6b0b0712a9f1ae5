import CuratedList.Span

/-! # Violations

Why an entry is rejected, and where. Each kind has a written name, used in machine-readable reports,
and a message for readers.
-/

namespace CuratedList
set_option autoImplicit false

/-- A reason to reject an entry. -/
inductive ViolationKind where
  | invalidEntry
  | invalidLink
  | invalidLinkUrl
  | invalidLinkText
  | separatorWhitespace
  | separatorDashVariant
  | missingSeparator
  | onlyBadges
  | missingPunctuation
  | emptyStart
  | invalidCasing
  | invalidMarkup
  deriving DecidableEq, Repr, Inhabited

namespace ViolationKind

/-- All kinds. -/
def all : List ViolationKind :=
  [invalidEntry, invalidLink, invalidLinkUrl, invalidLinkText, separatorWhitespace,
    separatorDashVariant, missingSeparator, onlyBadges, missingPunctuation, emptyStart,
    invalidCasing, invalidMarkup]

/-- The written name of a kind. -/
def name : ViolationKind → String
  | invalidEntry => "invalid-entry"
  | invalidLink => "invalid-link"
  | invalidLinkUrl => "invalid-link-url"
  | invalidLinkText => "invalid-link-text"
  | separatorWhitespace => "separator-whitespace"
  | separatorDashVariant => "separator-dash-variant"
  | missingSeparator => "missing-separator"
  | onlyBadges => "only-badges"
  | missingPunctuation => "missing-punctuation"
  | emptyStart => "empty-start"
  | invalidCasing => "invalid-casing"
  | invalidMarkup => "invalid-markup"

/-- The kind with a written name. -/
def ofName? (s : String) : Option ViolationKind := all.find? (·.name = s)

/-- What a reader is told. -/
def message : ViolationKind → String
  | invalidEntry => "Invalid list item"
  | invalidLink => "Invalid list item link"
  | invalidLinkUrl => "Invalid list item link URL"
  | invalidLinkText => "Invalid list item link text"
  | separatorWhitespace =>
    "List item link and description must be separated by a dash with single spaces around it"
  | separatorDashVariant =>
    "List item link and description separated by invalid en-dash or em-dash"
  | missingSeparator => "List item link and description must be separated with a dash"
  | onlyBadges => "List item description must not consist only of badges"
  | missingPunctuation => "List item description must end with proper punctuation"
  | emptyStart => "List item description must start with a non-empty string"
  | invalidCasing => "List item description must start with valid casing"
  | invalidMarkup => "List item description contains invalid markdown"

theorem ofName?_name (k : ViolationKind) : ofName? k.name = some k := by cases k <;> decide

end ViolationKind

/-- A rejected entry: what is wrong, and the span of the node it is wrong at. -/
structure Violation where
  kind : ViolationKind
  span : Span
  deriving DecidableEq, Repr

/-- The outcome of a rule: nothing, or the violation that rejects the entry. -/
abbrev Verdict := Except Violation Unit

/-- Rejects at a span. -/
def reject {α : Type} (kind : ViolationKind) (span : Span) : Except Violation α :=
  .error ⟨kind, span⟩

end CuratedList
