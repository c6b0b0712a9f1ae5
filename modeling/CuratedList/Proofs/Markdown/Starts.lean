import CuratedList.Markdown.Tree
import CuratedList.Proofs.Document.Starts
import CuratedList.Proofs.Text.Position

/-! # Nodes start where events start

The builder makes no offsets of its own. Whatever the events are, each node of their document starts
where one of them starts: a span is the one of an event, or the least span that holds two. Events of a
source start at boundaries of characters, and so the nodes of its document do.
-/

namespace CuratedList
set_option autoImplicit false

variable {p : Nat → Prop}

namespace Markdown

/-! ## Starts in a builder -/

/-- What an open block container holds starts at offsets that satisfy `p`. -/
def OpenBlock.StartsIn (p : Nat → Prop) : OpenBlock → Prop
  | .root cs => Block.AllStartIn p cs
  | .list items s => p s.start ∧ Item.AllStartIn p items
  | .item cs s | .other cs s => p s.start ∧ Block.AllStartIn p cs

/-- What a builder holds starts at offsets that satisfy `p`. -/
structure Builder.StartsIn (p : Nat → Prop) (b : Builder) : Prop where
  blocks : ∀ o ∈ b.blocks, o.StartsIn p
  inlines : ∀ o ∈ b.inlines, p o.span.start ∧ Inline.AllStartIn p o.children
  hidden : ∀ o ∈ b.sealed?, p o.span.start

namespace Builder.StartsIn

variable {b : Builder}

theorem drop (h : b.StartsIn p) : b.drop.StartsIn p := ⟨h.blocks, h.inlines, h.hidden⟩

theorem pushBlock (h : b.StartsIn p) (block : Block) (hb : block.StartsIn p) :
    (b.pushBlock block).StartsIn p := by
  have concat {bs : List Block} (hs : Block.AllStartIn p bs) : Block.AllStartIn p (bs ++ [block]) := by
    rw [Block.allStartIn_iff, List.forall_mem_append, List.forall_mem_singleton]
    exact ⟨(Block.allStartIn_iff bs).1 hs, hb⟩
  unfold Builder.pushBlock
  split
  next children rest e =>
    have blocks := h.blocks
    rw [e, List.forall_mem_cons] at blocks
    exact ⟨List.forall_mem_cons.2 ⟨concat blocks.1, blocks.2⟩, h.inlines, h.hidden⟩
  next children span rest e =>
    have blocks := h.blocks
    rw [e, List.forall_mem_cons] at blocks
    refine ⟨?_, h.inlines, h.hidden⟩
    exact List.forall_mem_cons.2 ⟨⟨blocks.1.1, concat blocks.1.2⟩, blocks.2⟩
  next children span rest e =>
    have blocks := h.blocks
    rw [e, List.forall_mem_cons] at blocks
    refine ⟨?_, h.inlines, h.hidden⟩
    exact List.forall_mem_cons.2 ⟨⟨blocks.1.1, concat blocks.1.2⟩, blocks.2⟩
  · exact h.drop
  · exact h.drop

theorem pushItem (h : b.StartsIn p) (item : Item) (hi : item.StartsIn p) :
    (b.pushItem item).StartsIn p := by
  unfold Builder.pushItem
  split
  next items span rest e =>
    have blocks := h.blocks
    rw [e, List.forall_mem_cons] at blocks
    refine ⟨?_, h.inlines, h.hidden⟩
    refine List.forall_mem_cons.2 ⟨⟨blocks.1.1, ?_⟩, blocks.2⟩
    rw [Item.allStartIn_iff, List.forall_mem_append, List.forall_mem_singleton]
    exact ⟨(Item.allStartIn_iff items).1 blocks.1.2, hi⟩
  · exact h.drop

theorem pushInline (h : b.StartsIn p) (node : Inline) (hn : node.StartsIn p) :
    (b.pushInline node).StartsIn p := by
  unfold Builder.pushInline
  split
  next e =>
    refine ⟨h.blocks, ?_, h.hidden⟩
    rw [List.forall_mem_singleton]
    exact ⟨hn.span, hn, trivial⟩
  next top rest e =>
    have inlines := h.inlines
    rw [e, List.forall_mem_cons] at inlines
    refine ⟨h.blocks, List.forall_mem_cons.2 ⟨⟨?_, ?_⟩, inlines.2⟩, h.hidden⟩
    · exact Span.start_cover inlines.1.1 hn.span
    · rw [Inline.allStartIn_iff, List.forall_mem_append, List.forall_mem_singleton]
      exact ⟨(Inline.allStartIn_iff _).1 inlines.1.2, hn⟩

theorem pushText (h : b.StartsIn p) (value : String) {span : Span} (hs : p span.start) :
    (b.pushText value span).StartsIn p := by
  unfold Builder.pushText
  split
  next top rest e =>
    split
    next before at' last =>
      have inlines := h.inlines
      rw [e, List.forall_mem_cons] at inlines
      obtain ⟨front, split⟩ := List.getLast?_eq_some_iff.1 last
      have children := (Inline.allStartIn_iff _).1 inlines.1.2
      rw [split, List.forall_mem_append, List.forall_mem_singleton] at children
      have text : p at'.start := children.2
      refine ⟨h.blocks, List.forall_mem_cons.2 ⟨⟨?_, ?_⟩, inlines.2⟩, h.hidden⟩
      · exact Span.start_cover inlines.1.1 hs
      · rw [split, List.dropLast_concat, Inline.allStartIn_iff, List.forall_mem_append,
          List.forall_mem_singleton]
        exact ⟨children.1, Span.start_cover text hs⟩
    · exact h.pushInline (.text value span) hs
  · exact h.pushInline (.text value span) hs

theorem openBlock (h : b.StartsIn p) (block : OpenBlock) (hb : block.StartsIn p) :
    (b.openBlock block).StartsIn p :=
  ⟨List.forall_mem_cons.2 ⟨hb, h.blocks⟩, h.inlines, h.hidden⟩

theorem openInline (h : b.StartsIn p) (goal : InlineGoal) {span : Span} (hs : p span.start) :
    (b.openInline goal span).StartsIn p := by
  refine ⟨h.blocks, List.forall_mem_cons.2 ⟨⟨hs, trivial⟩, ?_⟩, h.hidden⟩
  split
  · simp
  · simp
  · rw [List.forall_mem_singleton]
    exact ⟨hs, trivial⟩
  · exact h.inlines

theorem closeInline (h : b.StartsIn p) : b.closeInline.StartsIn p := by
  unfold Builder.closeInline
  split
  · exact h.drop
  next goal children span rest e =>
    have inlines := h.inlines
    rw [e, List.forall_mem_cons] at inlines
    obtain ⟨node, others⟩ := inlines
    have rest : Builder.StartsIn p { b with inlines := rest } := ⟨h.blocks, others, h.hidden⟩
    cases goal with
    | paragraph => exact rest.pushBlock (.paragraph children span) node
    | heading depth => exact rest.pushBlock (.heading depth children span) node
    | emphasis => exact rest.pushInline (.emphasis children span) node
    | strong => exact rest.pushInline (.strong children span) node
    | delete => exact rest.pushInline (.delete children span) node
    | link url => exact rest.pushInline (.link url children span) node
    | linkReference => exact rest.pushInline (.linkReference children span) node
    | image url => exact rest.pushInline (.image url _ span) node.1

theorem closeImplicit (h : b.StartsIn p) : b.closeImplicit.StartsIn p := by
  unfold Builder.closeImplicit
  split
  · exact h.closeInline
  · exact h

theorem closeBlock (h : b.StartsIn p) (tag : Tag) : (b.closeBlock tag).StartsIn p := by
  have popped : Builder.StartsIn p { b with blocks := b.blocks.tail } :=
    ⟨fun o member => h.blocks o (List.mem_of_mem_tail member), h.inlines, h.hidden⟩
  have top {container : OpenBlock} {rest : List OpenBlock} (e : b.blocks = container :: rest) :
      container.StartsIn p := h.blocks container (e ▸ List.mem_cons_self)
  unfold Builder.closeBlock
  simp only
  split
  next items span rest e => exact popped.pushBlock (.list items span) (top e)
  next children span rest e => exact popped.pushItem (.mk children span) (top e)
  next children span rest e => exact popped.pushBlock (.other children span) (top e)
  next children span rest e => exact popped.pushBlock (.other children span) (top e)
  · exact popped.drop

theorem start (h : b.StartsIn p) (tag : Tag) {span : Span} (hs : p span.start) :
    (b.start tag span).StartsIn p := by
  have closed := h.closeImplicit
  have hidden : Builder.StartsIn p { b.closeImplicit with sealed? := some { span } } :=
    ⟨closed.blocks, closed.inlines, by rintro _ ⟨⟩; exact hs⟩
  cases tag with
  | paragraph => exact closed.openInline _ hs
  | heading depth => exact closed.openInline _ hs
  | list => exact closed.openBlock (.list [] span) ⟨hs, trivial⟩
  | item => exact h.openBlock (.item [] span) ⟨hs, trivial⟩
  | quote | footnoteDefinition => exact closed.openBlock (.other [] span) ⟨hs, trivial⟩
  | codeBlock | htmlBlock | table => exact hidden
  | tableHead | tableRow | tableCell => exact h
  | link form url => cases form <;> exact h.openInline _ hs
  | _ => exact h.openInline _ hs

theorem stop (h : b.StartsIn p) (tag : Tag) : (b.stop tag).StartsIn p := by
  cases tag with
  | list | item | quote | footnoteDefinition => exact h.closeImplicit.closeBlock _
  | codeBlock | htmlBlock | table | tableHead | tableRow | tableCell => exact h
  | _ => exact h.closeInline

theorem take (h : b.StartsIn p) (event : Event) {span : Span} (hs : p span.start) :
    (b.take event span).StartsIn p := by
  cases event with
  | start tag => exact h.start tag hs
  | stop tag => exact h.stop tag
  | text value => exact h.pushText value hs
  | softBreak => exact h.pushText "\n" hs
  | hardBreak => exact h.pushInline (.lineBreak span) hs
  | code value => exact h.pushInline (.code value span) hs
  | html value => exact h.pushInline (.html value span) hs
  | footnoteReference label => exact h.pushInline (.footnoteReference label span) hs
  | rule => exact h.pushBlock (.other [] span) ⟨hs, trivial⟩
  | taskMarker => exact h

theorem step (h : b.StartsIn p) {event : Event × Span} (hs : p event.2.start) :
    (b.step event).StartsIn p := by
  unfold Builder.step
  split
  · exact h.take event.1 hs
  next span depth e =>
    have here : p span.start := h.hidden ⟨span, depth⟩ e
    have deeper (depth : Nat) : Builder.StartsIn p { b with sealed? := some ⟨span, depth⟩ } :=
      ⟨h.blocks, h.inlines, by rintro _ ⟨⟩; exact here⟩
    split
    · exact deeper _
    · have closed : Builder.StartsIn p { b with sealed? := none } :=
        ⟨h.blocks, h.inlines, by rintro _ ⟨⟩⟩
      exact closed.pushBlock (.other [] span) ⟨here, trivial⟩
    · exact deeper _
    · exact h

theorem run (h : b.StartsIn p) (events : Events) (hs : ∀ e ∈ events, p e.2.start) :
    (events.foldl Builder.step b).StartsIn p := by
  induction events generalizing b with
  | nil => exact h
  | cons e events ih =>
    rw [List.forall_mem_cons] at hs
    exact ih (h.step hs.1) hs.2

theorem closeInlines (h : b.StartsIn p) (n : Nat) : (b.closeInlines n).StartsIn p := by
  induction n generalizing b with
  | zero => exact h
  | succ n ih => exact ih h.closeInline

end Builder.StartsIn

theorem allStartIn_rootBlocks {containers : List OpenBlock} (h : ∀ o ∈ containers, o.StartsIn p) :
    Block.AllStartIn p (Builder.rootBlocks containers) := by
  refine List.foldlRecOn containers _ (motive := Block.AllStartIn p) trivial ?_
  intro found good o member
  cases o with
  | root children => exact h _ member
  | _ => exact good

/-- All nodes of a document start where events start. -/
theorem startsIn_ofEvents (events : Events) (hs : ∀ e ∈ events, p e.2.start) :
    Block.AllStartIn p (Document.ofEvents events).blocks := by
  have empty : Builder.StartsIn p {} := by
    constructor
    · rw [List.forall_mem_singleton]
      trivial
    · simp
    · rintro _ ⟨⟩
  exact allStartIn_rootBlocks ((empty.run events hs).closeInlines _).blocks

/-! ## Starts of the events of a source -/

theorem offsets_foldl {whole : List Char} (before cs : List Char) (acc : Array Nat)
    (all : before ++ cs = whole) (last : acc.back? = some (Text.byteLength before))
    (known : ∀ n ∈ acc, Text.IsBoundary whole n) :
    ∀ n ∈ cs.foldl (fun acc c => acc.push (acc.back?.getD 0 + c.utf8Size)) acc,
      Text.IsBoundary whole n := by
  induction cs generalizing before acc with
  | nil => exact known
  | cons c cs ih =>
    have next : acc.back?.getD 0 + c.utf8Size = Text.byteLength (before ++ [c]) := by
      rw [last, Option.getD_some, Text.byteLength_append, Text.byteLength_cons, Text.byteLength_nil]
      rfl
    have whole : (before ++ [c]) ++ cs = whole := by rw [← all, List.append_assoc]; rfl
    rw [List.foldl_cons, next]
    refine ih (before ++ [c]) _ whole Array.back?_push fun n member => ?_
    rcases Array.mem_push.1 member with old | rfl
    · exact known n old
    · exact ⟨before ++ [c], ⟨cs, whole⟩, rfl⟩

theorem offsets_boundary (s : Source) : ∀ n ∈ s.offsets, Text.IsBoundary s.toList n := by
  rw [Source.offsets, ← Array.foldl_toList]
  refine offsets_foldl [] s.toList #[0] rfl rfl fun n member => ?_
  rw [List.mem_singleton.1 (Array.mem_toList_iff.2 member)]
  exact ⟨[], List.nil_prefix, rfl⟩

theorem EventFrame.start_span (f : EventFrame) (h : ∀ n ∈ f.offsets, p n) (zero : p 0)
    (start stop : Nat) : p (f.span start stop).start := by
  unfold EventFrame.span
  cases found : f.offsets[start]? with
  | none => exact zero
  | some n => exact h n (Array.mem_of_getElem? found)

section

variable (f : EventFrame)

mutual

theorem EventFrame.start_ofPhrase (h : ∀ start stop, p (f.span start stop).start) :
    (phrase : Phrase) → ∀ e ∈ f.ofPhrase phrase, p e.2.start
  | .leaf event start stop => by
    rw [EventFrame.ofPhrase, List.forall_mem_singleton]
    exact h start stop
  | .nest tag children start stop => by
    rw [EventFrame.ofPhrase, List.forall_mem_cons, List.forall_mem_append, List.forall_mem_singleton]
    exact ⟨h start stop, EventFrame.start_ofPhrases h children, h start stop⟩

theorem EventFrame.start_ofPhrases (h : ∀ start stop, p (f.span start stop).start) :
    (phrases : List Phrase) → ∀ e ∈ f.ofPhrases phrases, p e.2.start
  | [] => by simp [EventFrame.ofPhrases]
  | phrase :: phrases => by
    rw [EventFrame.ofPhrases, List.forall_mem_append]
    exact ⟨EventFrame.start_ofPhrase h phrase, EventFrame.start_ofPhrases h phrases⟩

end

theorem EventFrame.start_within (h : ∀ start stop, p (f.span start stop).start) (tag : Tag)
    (start stop : Nat) {inner : Events} (hi : ∀ e ∈ inner, p e.2.start) :
    ∀ e ∈ f.within tag start stop inner, p e.2.start := by
  rw [EventFrame.within, List.forall_mem_cons, List.forall_mem_append, List.forall_mem_singleton]
  exact ⟨h start stop, hi, h start stop⟩

mutual

theorem EventFrame.start_ofBlock (h : ∀ start stop, p (f.span start stop).start)
    (ks : List Container) (tight : Bool) :
    (block : Outline) → ∀ e ∈ f.ofBlock ks tight block, p e.2.start
  | .paragraph tokens start stop => by
    have inner : ∀ e ∈ f.ofTokens ks stop tokens, p e.2.start := f.start_ofPhrases h _
    rw [EventFrame.ofBlock]
    split
    · exact inner
    · exact f.start_within h _ _ _ inner
  | .heading depth tokens start stop => f.start_within h _ _ _ (f.start_ofPhrases h _)
  | .rule start stop => by
    rw [EventFrame.ofBlock, List.forall_mem_singleton]
    exact h start stop
  | .sealed tag start stop => f.start_within h _ _ _ (by simp)
  | .task start stop => by
    rw [EventFrame.ofBlock, List.forall_mem_singleton]
    exact h start stop
  | .nest k children start stop =>
    f.start_within h _ _ _ (EventFrame.start_ofBlocks h (ks ++ [k]) _ children)

theorem EventFrame.start_ofBlocks (h : ∀ start stop, p (f.span start stop).start)
    (ks : List Container) (tight : Bool) :
    (blocks : List Outline) → ∀ e ∈ f.ofBlocks ks tight blocks, p e.2.start
  | [] => by simp [EventFrame.ofBlocks]
  | block :: blocks => by
    rw [EventFrame.ofBlocks, List.forall_mem_append]
    exact ⟨EventFrame.start_ofBlock h ks tight block, EventFrame.start_ofBlocks h ks tight blocks⟩

end

end

/-- All nodes of the document of a source start at boundaries of characters. -/
theorem startsIn_ofMarkdown (source : String) :
    Block.AllStartIn (Text.IsBoundary source.toList) (Document.ofMarkdown source).blocks := by
  refine startsIn_ofEvents _ fun e member => ?_
  refine EventFrame.start_ofBlocks _ ?_ _ _ _ e member
  refine EventFrame.start_span _ (fun n here => ?_) ⟨[], List.nil_prefix, rfl⟩
  have boundary := offsets_boundary source.toList.toArray n here
  rwa [List.toList_toArray] at boundary

end Markdown
end CuratedList
