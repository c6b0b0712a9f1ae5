import CuratedList.Markdown.Brackets

/-! # Reading Markdown

The events of a source: its outline, with the phrases of its texts. Paragraphs in the items of a tight
list have no events of their own.
-/

namespace CuratedList.Markdown
set_option autoImplicit false

/-- What the events of a source depend on beside its outline. -/
structure EventFrame where
  source : Source
  /-- The byte offset of each position. -/
  offsets : Array Nat
  definitions : List (List Char × String)
  footnotes : List (List Char)

namespace EventFrame

/-- The bytes between two positions. -/
def span (f : EventFrame) (start stop : Nat) : Span :=
  ⟨f.offsets[start]?.getD 0, f.offsets[stop]?.getD (f.offsets.back?.getD 0)⟩

mutual

/-- The events of a phrase. -/
def ofPhrase (f : EventFrame) : Phrase → Events
  | .leaf event start stop => [(event, f.span start stop)]
  | .nest tag children start stop =>
    (.start tag, f.span start stop) :: (ofPhrases f children ++ [(.stop tag, f.span start stop)])

/-- The events of consecutive phrases. -/
def ofPhrases (f : EventFrame) : List Phrase → Events
  | [] => []
  | p :: ps => ofPhrase f p ++ ofPhrases f ps

end

/-- The events of the tokens of a block that ends at `stop`. -/
def ofTokens (f : EventFrame) (ks : List Container) (stop : Nat) (tokens : List Token) : Events :=
  let frame : InlineFrame := ⟨f.source.upTo stop, ks, f.definitions, f.footnotes⟩
  f.ofPhrases (frame.phrases tokens)

/-- Events between the start and the stop of a container. -/
def within (f : EventFrame) (tag : Tag) (start stop : Nat) (inner : Events) : Events :=
  (.start tag, f.span start stop) :: (inner ++ [(.stop tag, f.span start stop)])

/-- The container tag of an open container. -/
def tagOf : Container → Tag
  | .quote => .quote
  | .list .. => .list
  | .item _ => .item
  | .footnote _ => .footnoteDefinition

mutual

/-- The events of a block inside the containers `ks`; `tight` tells whether it stands in an item of a
tight list. -/
def ofBlock (f : EventFrame) (ks : List Container) (tight : Bool) : Outline → Events
  | .paragraph tokens start stop =>
    let inner := f.ofTokens ks stop tokens
    if tight then inner else f.within .paragraph start stop inner
  | .heading depth tokens start stop =>
    f.within (.heading depth) start stop (f.ofTokens ks stop tokens)
  | .rule start stop => [(.rule, f.span start stop)]
  | .sealed tag start stop => f.within tag start stop []
  | .task start stop => [(.taskMarker, f.span start stop)]
  | .nest k children start stop =>
    let tight := match k with
      | .list isTight _ => isTight
      | .item _ => tight
      | _ => false
    f.within (tagOf k) start stop (ofBlocks f (ks ++ [k]) tight children)

/-- The events of consecutive blocks. -/
def ofBlocks (f : EventFrame) (ks : List Container) (tight : Bool) : List Outline → Events
  | [] => []
  | b :: bs => ofBlock f ks tight b ++ ofBlocks f ks tight bs

end

end EventFrame

/-- The events of a source. -/
def events (source : String) : Events :=
  let s : Source := source.toList.toArray
  let (outline, r) := readOutline s
  let frame : EventFrame := ⟨s, s.offsets, r.definitions, r.footnotes⟩
  frame.ofBlocks [] false outline

end CuratedList.Markdown
