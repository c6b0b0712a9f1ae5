import CuratedList.Markdown.Event

/-! # Event trees

A well nested stream of events is the flattening of a tree. The types of this module hold the trees that
Markdown has: items stand in lists only, blocks in the document, in items, quotes and footnote
definitions, and inline content there or in paragraphs, headings and inline containers. What stands in a
code block, an HTML block or a table is any balanced content.

Inline content directly in an item belongs to a tight list. `FlowTree.loosen` puts every maximal run of
it into a paragraph, as a loose list has it.
-/

namespace CuratedList.Markdown
set_option autoImplicit false

/-- Events between the start and the stop of a container. -/
def Events.within (tag : Tag) (span : Span) (inner : Events) : Events :=
  (.start tag, span) :: (inner ++ [(.stop tag, span)])

/-! ## Inline trees -/

/-- Inline content without parts. -/
inductive Leaf where
  | text (value : String)
  | code (value : String)
  | html (value : String)
  | footnoteReference (label : String)
  | softBreak
  | hardBreak
  | taskMarker
  deriving DecidableEq

/-- The event of a leaf. -/
def Leaf.event : Leaf → Event
  | text value => .text value
  | code value => .code value
  | html value => .html value
  | footnoteReference label => .footnoteReference label
  | softBreak => .softBreak
  | hardBreak => .hardBreak
  | taskMarker => .taskMarker

/-- An inline container. -/
inductive Markup where
  | emphasis
  | strong
  | strikethrough
  | link (form : LinkForm) (url : String)
  | image (url : String)
  deriving DecidableEq

/-- The tag of an inline container. -/
def Markup.tag : Markup → Tag
  | emphasis => .emphasis
  | strong => .strong
  | strikethrough => .strikethrough
  | link form url => .link form url
  | image url => .image url

/-- Inline content. -/
inductive InlineTree where
  | leaf (leaf : Leaf) (span : Span)
  | nest (markup : Markup) (children : List InlineTree) (span : Span)

namespace InlineTree

/-- Where a tree was read. -/
def span : InlineTree → Span
  | leaf _ s | nest _ _ s => s

/-- The check box of a task, which leaves no trace in a document. -/
def isMarker : InlineTree → Bool
  | leaf .taskMarker _ => true
  | _ => false

mutual

/-- The events of a tree. -/
def events : InlineTree → Events
  | leaf l s => [(l.event, s)]
  | nest m children s => Events.within m.tag s (eventsAll children)

/-- The events of consecutive trees. -/
def eventsAll : List InlineTree → Events
  | [] => []
  | t :: ts => t.events ++ eventsAll ts

end

end InlineTree

/-! ## Content that is not looked at -/

/-- An event without a counterpart. -/
def Event.isLeaf : Event → Bool
  | .start _ | .stop _ => false
  | _ => true

/-- Balanced content of any kind. -/
inductive HiddenTree where
  | leaf (event : Event) (isLeaf : event.isLeaf = true) (span : Span)
  | nest (tag : Tag) (children : List HiddenTree) (span : Span)

namespace HiddenTree

mutual

/-- The events of a tree. -/
def events : HiddenTree → Events
  | leaf e _ s => [(e, s)]
  | nest tag children s => Events.within tag s (eventsAll children)

/-- The events of consecutive trees. -/
def eventsAll : List HiddenTree → Events
  | [] => []
  | t :: ts => t.events ++ eventsAll ts

end

end HiddenTree

/-- A block whose content is not looked at. -/
inductive SealedKind where
  | codeBlock
  | htmlBlock
  | table
  deriving DecidableEq

/-- The tag of a block whose content is not looked at. -/
def SealedKind.tag : SealedKind → Tag
  | codeBlock => .codeBlock
  | htmlBlock => .htmlBlock
  | table => .table

/-! ## Block trees -/

/-- A container of blocks beside lists and items. -/
inductive BoxKind where
  | quote
  | footnoteDefinition
  deriving DecidableEq

/-- The tag of a container of blocks. -/
def BoxKind.tag : BoxKind → Tag
  | quote => .quote
  | footnoteDefinition => .footnoteDefinition

mutual

/-- What stands in the document, an item, a quote or a footnote definition. -/
inductive FlowTree where
  | inline (tree : InlineTree)
  | paragraph (children : List InlineTree) (span : Span)
  | heading (depth : Nat) (children : List InlineTree) (span : Span)
  | rule (span : Span)
  | sealed (kind : SealedKind) (children : List HiddenTree) (span : Span)
  | list (items : List ItemTree) (span : Span)
  | box (kind : BoxKind) (children : List FlowTree) (span : Span)

/-- An item of a list. -/
inductive ItemTree where
  | mk (children : List FlowTree) (span : Span)

end

namespace FlowTree

mutual

/-- The events of a tree. -/
def events : FlowTree → Events
  | inline t => t.events
  | paragraph children s => Events.within .paragraph s (InlineTree.eventsAll children)
  | heading depth children s => Events.within (.heading depth) s (InlineTree.eventsAll children)
  | rule s => [(.rule, s)]
  | sealed kind children s => Events.within kind.tag s (HiddenTree.eventsAll children)
  | list items s => Events.within .list s (itemEventsAll items)
  | box kind children s => Events.within kind.tag s (eventsAll children)

/-- The events of consecutive trees. -/
def eventsAll : List FlowTree → Events
  | [] => []
  | t :: ts => t.events ++ eventsAll ts

/-- The events of an item. -/
def itemEvents : ItemTree → Events
  | .mk children s => Events.within .item s (eventsAll children)

/-- The events of consecutive items. -/
def itemEventsAll : List ItemTree → Events
  | [] => []
  | i :: is => itemEvents i ++ itemEventsAll is

end

/-! ## Loose forms -/

/-- A run of inline siblings as a paragraph, which task markers alone do not make. -/
def wrap : List InlineTree → List FlowTree
  | [] => []
  | t :: ts =>
    if (t :: ts).all InlineTree.isMarker then []
    else [paragraph (t :: ts) (ts.foldl (fun s u => s.cover u.span) t.span)]

mutual

/-- A tree with the runs inside it in paragraphs. -/
def loosenInside : FlowTree → FlowTree
  | inline t => inline t
  | paragraph children s => paragraph children s
  | heading depth children s => heading depth children s
  | rule s => rule s
  | sealed kind children s => sealed kind children s
  | list items s => list (loosenItems items) s
  | box kind children s => box kind (loosenAfter [] children) s

/-- Consecutive trees after the inline siblings `run`, with every maximal run in a paragraph. -/
def loosenAfter (run : List InlineTree) : List FlowTree → List FlowTree
  | [] => wrap run
  | inline t :: ts => loosenAfter (run ++ [t]) ts
  | t :: ts => wrap run ++ t.loosenInside :: loosenAfter [] ts

/-- Items with every maximal run inside them in a paragraph. -/
def loosenItems : List ItemTree → List ItemTree
  | [] => []
  | .mk children s :: is => .mk (loosenAfter [] children) s :: loosenItems is

end

/-- Consecutive trees with every maximal run of inline siblings in a paragraph. -/
def loosen (ts : List FlowTree) : List FlowTree := loosenAfter [] ts

end FlowTree
end CuratedList.Markdown
