import CuratedList.Document
import CuratedList.Entry.Violation

/-! # The parts of an entry

An entry that starts with plain text is free-form. Any other splits into a link and a description.
Nodes before the link, such as images, are filler; the search for a link stops while one node is
left for the description.
-/

namespace CuratedList
set_option autoImplicit false

/-- What an entry consists of. -/
inductive Parts where
  /-- Plain text comes first; no further rule applies. -/
  | textLed
  /-- The node expected to be the link, and everything after it. -/
  | linked (link : Inline) (description : List Inline)
  deriving Repr

namespace Parts

/-- Moves past nodes that are no link while more than one node follows. -/
def skipFiller : Inline → List Inline → Inline × List Inline
  | link, next :: d :: ds =>
    if link.isLinkLike then (link, next :: d :: ds) else skipFiller next (d :: ds)
  | link, ds => (link, ds)

/-- The parts of a paragraph that starts with `first`. -/
def ofInlines (first : Inline) (rest : List Inline) : Parts :=
  match first with
  | .text .. => textLed
  | _ => let (link, description) := skipFiller first rest; linked link description

/-- The parts of an entry, whose first block has to be a paragraph with content. -/
def ofItem (item : Item) : Except Violation Parts :=
  match item.children with
  | .paragraph (first :: rest) _ :: _ => .ok (ofInlines first rest)
  | block :: _ => reject .invalidEntry block.span
  | [] => reject .invalidEntry item.span

end Parts
end CuratedList
