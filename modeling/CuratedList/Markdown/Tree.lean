import CuratedList.Document
import CuratedList.Markdown.Reader

/-! # From events to documents

A document is built from its events in one pass. One stack holds the open block containers, another the
open inline containers. Inline content that stands directly in an item gets a paragraph of its own, so
that entries have the same shape in tight and loose lists; the next block closes that paragraph.
-/

namespace CuratedList.Markdown
set_option autoImplicit false

/-! ## Open containers -/

/-- An open block container. -/
inductive OpenBlock where
  /-- The document. -/
  | root (children : List Block)
  | list (items : List Item) (span : Span)
  | item (children : List Block) (span : Span)
  /-- A quote or a footnote definition. -/
  | other (children : List Block) (span : Span)

/-- What an open inline container becomes. -/
inductive InlineGoal where
  /-- A paragraph, implicit if no event started it. -/
  | paragraph (implicit : Bool)
  | heading (depth : Nat)
  | emphasis
  | strong
  | delete
  | link (url : String)
  | linkReference
  | image (url : String)
  deriving DecidableEq, Repr

/-- An open inline container, with its nodes so far and the span that covers them. -/
structure OpenInline where
  goal : InlineGoal
  children : List Inline
  span : Span

/-- An open container whose content is not looked at, and how many containers are open in it. -/
structure OpenSealed where
  span : Span
  depth : Nat := 0

/-- A document being built. -/
structure Builder where
  /-- The open block containers, innermost first. -/
  blocks : List OpenBlock := [.root []]
  /-- The open inline containers, innermost first. -/
  inlines : List OpenInline := []
  /-- The open container whose content is not looked at, if there is one. -/
  sealed? : Option OpenSealed := none
  /-- How often something did not fit on the stacks, and was left out. -/
  dropped : Nat := 0

namespace Builder

/-- Leaves out what does not fit. -/
def drop (b : Builder) : Builder := { b with dropped := b.dropped + 1 }

/-! ## Attaching nodes -/

/-- Adds a block to the innermost block container. A list takes items only. -/
def pushBlock (b : Builder) (block : Block) : Builder :=
  match b.blocks with
  | .root children :: rest => { b with blocks := .root (children ++ [block]) :: rest }
  | .item children span :: rest => { b with blocks := .item (children ++ [block]) span :: rest }
  | .other children span :: rest => { b with blocks := .other (children ++ [block]) span :: rest }
  | .list .. :: _ | [] => b.drop

/-- Adds an item to the innermost block container, a list. -/
def pushItem (b : Builder) (item : Item) : Builder :=
  match b.blocks with
  | .list items span :: rest => { b with blocks := .list (items ++ [item]) span :: rest }
  | _ => b.drop

/-- Adds a node to the innermost inline container, or to a new implicit paragraph. -/
def pushInline (b : Builder) (node : Inline) : Builder :=
  match b.inlines with
  | [] => { b with inlines := [⟨.paragraph true, [node], node.span⟩] }
  | top :: rest =>
    { b with inlines := ⟨top.goal, top.children ++ [node], top.span.cover node.span⟩ :: rest }

/-- Adds text; it joins a text node right before it. -/
def pushText (b : Builder) (value : String) (span : Span) : Builder :=
  match b.inlines with
  | top :: rest =>
    match top.children.getLast? with
    | some (.text before at') =>
      let joined := Inline.text (before ++ value) (at'.cover span)
      { b with inlines := ⟨top.goal, top.children.dropLast ++ [joined], top.span.cover span⟩ :: rest }
    | _ => b.pushInline (.text value span)
  | [] => b.pushInline (.text value span)

/-! ## Opening and closing -/

/-- Opens a block container. -/
def openBlock (b : Builder) (block : OpenBlock) : Builder := { b with blocks := block :: b.blocks }

/-- Opens an inline container. Outside all others, only a paragraph or heading needs no implicit
paragraph around it. -/
def openInline (b : Builder) (goal : InlineGoal) (span : Span) : Builder :=
  let around : List OpenInline :=
    match b.inlines, goal with
    | [], .paragraph _ | [], .heading _ => []
    | [], _ => [⟨.paragraph true, [], span⟩]
    | inlines, _ => inlines
  { b with inlines := ⟨goal, [], span⟩ :: around }

/-- Closes the innermost inline container and adds what it became. -/
def closeInline (b : Builder) : Builder :=
  match b.inlines with
  | [] => b.drop
  | ⟨goal, children, span⟩ :: rest =>
    let b := { b with inlines := rest }
    match goal with
    | .paragraph _ => b.pushBlock (.paragraph children span)
    | .heading depth => b.pushBlock (.heading depth children span)
    | .emphasis => b.pushInline (.emphasis children span)
    | .strong => b.pushInline (.strong children span)
    | .delete => b.pushInline (.delete children span)
    | .link url => b.pushInline (.link url children span)
    | .linkReference => b.pushInline (.linkReference children span)
    | .image url => b.pushInline (.image url (Inline.plainTextAll children) span)

/-- Closes an implicit paragraph, if one is innermost. -/
def closeImplicit (b : Builder) : Builder :=
  match b.inlines with
  | ⟨.paragraph true, _, _⟩ :: _ => b.closeInline
  | _ => b

/-- Closes the innermost block container and adds what it became, if it is one of the tag. -/
def closeBlock (b : Builder) (tag : Tag) : Builder :=
  let popped := { b with blocks := b.blocks.tail }
  match tag, b.blocks with
  | .list, .list items span :: _ => popped.pushBlock (.list items span)
  | .item, .item children span :: _ => popped.pushItem (.mk children span)
  | .quote, .other children span :: _ | .footnoteDefinition, .other children span :: _ =>
    popped.pushBlock (.other children span)
  | _, _ => popped.drop

/-! ## Events -/

/-- Starts a container. -/
def start (b : Builder) (tag : Tag) (span : Span) : Builder :=
  match tag with
  | .paragraph => b.closeImplicit.openInline (.paragraph false) span
  | .heading depth => b.closeImplicit.openInline (.heading depth) span
  | .list => b.closeImplicit.openBlock (.list [] span)
  | .item => b.openBlock (.item [] span)
  | .quote | .footnoteDefinition => b.closeImplicit.openBlock (.other [] span)
  | .codeBlock | .htmlBlock | .table => { b.closeImplicit with sealed? := some { span } }
  | .tableHead | .tableRow | .tableCell => b
  | .emphasis => b.openInline .emphasis span
  | .strong => b.openInline .strong span
  | .strikethrough => b.openInline .delete span
  | .link .direct url => b.openInline (.link url) span
  | .link .reference _ => b.openInline .linkReference span
  | .image url => b.openInline (.image url) span

/-- Stops a container. -/
def stop (b : Builder) (tag : Tag) : Builder :=
  match tag with
  | .paragraph | .heading _ | .emphasis | .strong | .strikethrough | .link .. | .image _ =>
    b.closeInline
  | .list | .item | .quote | .footnoteDefinition => b.closeImplicit.closeBlock tag
  | .codeBlock | .htmlBlock | .table | .tableHead | .tableRow | .tableCell => b

/-- Takes one event outside sealed containers. -/
def take (b : Builder) (event : Event) (span : Span) : Builder :=
  match event with
  | .start tag => b.start tag span
  | .stop tag => b.stop tag
  | .text value => b.pushText value span
  | .softBreak => b.pushText "\n" span
  | .hardBreak => b.pushInline (.lineBreak span)
  | .code value => b.pushInline (.code value span)
  | .html value => b.pushInline (.html value span)
  | .footnoteReference label => b.pushInline (.footnoteReference label span)
  | .rule => b.pushBlock (.other [] span)
  | .taskMarker => b

/-- Takes one event. Inside a sealed container only the nesting counts. -/
def step (b : Builder) (event : Event × Span) : Builder :=
  match b.sealed? with
  | none => b.take event.1 event.2
  | some ⟨span, depth⟩ =>
    match event.1, depth with
    | .start _, _ => { b with sealed? := some ⟨span, depth + 1⟩ }
    | .stop _, 0 => { b with sealed? := none }.pushBlock (.other [] span)
    | .stop _, depth + 1 => { b with sealed? := some ⟨span, depth⟩ }
    | _, _ => b

/-- Closes all inline containers. -/
def closeInlines (b : Builder) : (n : Nat) → Builder
  | 0 => b
  | n + 1 => closeInlines b.closeInline n

/-- The blocks of the outermost document among open block containers. -/
def rootBlocks (containers : List OpenBlock) : List Block :=
  containers.foldl (fun found container =>
    match container with
    | .root children => children
    | _ => found) []

/-- The document, with what is still open outside block containers. -/
def finish (b : Builder) : Document := ⟨rootBlocks (b.closeInlines b.inlines.length).blocks⟩

end Builder
end CuratedList.Markdown

namespace CuratedList
set_option autoImplicit false

namespace Document

/-- The document that a stream of events describes. -/
def ofEvents (events : Markdown.Events) : Document :=
  (events.foldl Markdown.Builder.step {}).finish

/-- The document of a Markdown source. -/
def ofMarkdown (source : String) : Document := ofEvents (Markdown.events source)

end Document
end CuratedList
