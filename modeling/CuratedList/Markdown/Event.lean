import CuratedList.Span

/-! # Events

A Markdown source is read as a flat stream of events with their spans: containers start and stop, and
leaves stand between. Reference links carry their label's destination, which the tree drops.
-/

namespace CuratedList.Markdown
set_option autoImplicit false

/-- How a link names its destination. -/
inductive LinkForm where
  /-- `[text](url)`, `<url>` or `<address>`. -/
  | direct
  /-- `[text][label]`, `[label][]` or `[label]`. -/
  | reference
  deriving DecidableEq, Repr, Inhabited

/-- A container. -/
inductive Tag where
  | paragraph
  | heading (depth : Nat)
  | list
  | item
  | quote
  | footnoteDefinition
  | codeBlock
  | htmlBlock
  | table
  | tableHead
  | tableRow
  | tableCell
  | emphasis
  | strong
  | strikethrough
  | link (form : LinkForm) (url : String)
  | image (url : String)
  deriving DecidableEq, Repr, Inhabited

/-- One step of the stream. -/
inductive Event where
  | start (tag : Tag)
  | stop (tag : Tag)
  | text (value : String)
  | code (value : String)
  | html (value : String)
  | footnoteReference (label : String)
  | softBreak
  | hardBreak
  | rule
  | taskMarker
  deriving DecidableEq, Repr, Inhabited

/-- A stream of events, each with the bytes it was read from. -/
abbrev Events := List (Event × Span)

end CuratedList.Markdown
