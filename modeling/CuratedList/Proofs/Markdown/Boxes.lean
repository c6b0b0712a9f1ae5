import CuratedList.Markdown.Tree
import CuratedList.Proofs.Document.Boxes

/-! # Boxes of inline nodes in a builder

A box of a document was an open inline container once, and became a box when it was closed. So whatever
the builder keeps true of its open containers holds of all boxes of the document. `Builder.Boxed` is
the part of this that is the same for every property: it follows the boxes that are closed through the two
stacks, and asks of a step only that the innermost open container has the property.

The first of these properties is that texts are joined. It holds whatever the events are
(`merged_of_mem_boxes`).
-/

namespace CuratedList.Markdown
set_option autoImplicit false

/-- What an open container is so far. -/
def OpenInline.box (o : OpenInline) : InlineBox := ⟨o.children, o.span⟩

/-- The node that an inline container becomes. Paragraphs and headings become blocks. -/
def InlineGoal.node? (children : List Inline) (span : Span) : InlineGoal → Option Inline
  | paragraph _ | heading _ => none
  | emphasis => some (.emphasis children span)
  | strong => some (.strong children span)
  | delete => some (.delete children span)
  | link url => some (.link url children span)
  | linkReference => some (.linkReference children span)
  | image url => some (.image url (Inline.plainTextAll children) span)

def OpenBlock.boxes : OpenBlock → List InlineBox
  | .root cs | .item cs _ | .other cs _ => Block.boxesAll cs
  | .list items _ => Item.boxesAll items

namespace Builder

variable {Q : InlineBox → Prop} {b : Builder}

/-- The boxes that are closed have the property. -/
structure Boxed (Q : InlineBox → Prop) (b : Builder) : Prop where
  blocks : ∀ o ∈ b.blocks, ∀ box ∈ o.boxes, Q box
  inlines : ∀ o ∈ b.inlines, ∀ box ∈ Inline.boxesAll o.children, Q box

/-- The innermost open inline container has the property. -/
def TopIs (Q : InlineBox → Prop) (b : Builder) : Prop := ∀ o ∈ b.inlines.head?, Q o.box

namespace Boxed

theorem drop (h : b.Boxed Q) : b.drop.Boxed Q := ⟨h.blocks, h.inlines⟩

theorem pushBlock (h : b.Boxed Q) (block : Block) (hb : ∀ box ∈ block.boxes, Q box) :
    (b.pushBlock block).Boxed Q := by
  have concat {bs : List Block} (hs : ∀ box ∈ Block.boxesAll bs, Q box) :
      ∀ box ∈ Block.boxesAll (bs ++ [block]), Q box := by
    rw [Block.boxesAll_concat, List.forall_mem_append]
    exact ⟨hs, hb⟩
  have blocks := h.blocks
  unfold Builder.pushBlock
  split
  next children rest e =>
    rw [e, List.forall_mem_cons] at blocks
    exact ⟨List.forall_mem_cons.2 ⟨concat blocks.1, blocks.2⟩, h.inlines⟩
  next children span rest e =>
    rw [e, List.forall_mem_cons] at blocks
    exact ⟨List.forall_mem_cons.2 ⟨concat blocks.1, blocks.2⟩, h.inlines⟩
  next children span rest e =>
    rw [e, List.forall_mem_cons] at blocks
    exact ⟨List.forall_mem_cons.2 ⟨concat blocks.1, blocks.2⟩, h.inlines⟩
  · exact h.drop
  · exact h.drop

theorem pushItem (h : b.Boxed Q) (item : Item) (hi : ∀ box ∈ item.boxes, Q box) :
    (b.pushItem item).Boxed Q := by
  unfold Builder.pushItem
  split
  next items span rest e =>
    have blocks := h.blocks
    rw [e, List.forall_mem_cons] at blocks
    refine ⟨List.forall_mem_cons.2 ⟨?_, blocks.2⟩, h.inlines⟩
    show ∀ box ∈ Item.boxesAll (items ++ [item]), Q box
    rw [Item.boxesAll_concat, List.forall_mem_append]
    exact ⟨blocks.1, hi⟩
  · exact h.drop

theorem pushInline (h : b.Boxed Q) (node : Inline) (hn : ∀ box ∈ node.boxes, Q box) :
    (b.pushInline node).Boxed Q := by
  unfold Builder.pushInline
  split
  next e =>
    refine ⟨h.blocks, List.forall_mem_singleton.2 ?_⟩
    rw [Inline.boxesAll, Inline.boxesAll, List.append_nil]
    exact hn
  next top rest e =>
    have inlines := h.inlines
    rw [e, List.forall_mem_cons] at inlines
    refine ⟨h.blocks, List.forall_mem_cons.2 ⟨?_, inlines.2⟩⟩
    show ∀ box ∈ Inline.boxesAll (top.children ++ [node]), Q box
    rw [Inline.boxesAll_concat, List.forall_mem_append]
    exact ⟨inlines.1, hn⟩

theorem pushText (h : b.Boxed Q) (value : String) (span : Span) : (b.pushText value span).Boxed Q := by
  have text (value : String) (span : Span) : ∀ box ∈ (Inline.text value span).boxes, Q box :=
    List.forall_mem_nil Q
  unfold Builder.pushText
  split
  next top rest e =>
    split
    next before at' last =>
      have inlines := h.inlines
      rw [e, List.forall_mem_cons] at inlines
      obtain ⟨front, split⟩ := List.getLast?_eq_some_iff.1 last
      rw [split, Inline.boxesAll_concat, List.forall_mem_append] at inlines
      refine ⟨h.blocks, List.forall_mem_cons.2 ⟨?_, inlines.2⟩⟩
      show ∀ box ∈ Inline.boxesAll (top.children.dropLast ++ [_]), Q box
      rw [split, List.dropLast_concat, Inline.boxesAll_concat, List.forall_mem_append]
      exact ⟨inlines.1.1, text _ _⟩
    · exact h.pushInline _ (text _ _)
  · exact h.pushInline _ (text _ _)

theorem openBlock (h : b.Boxed Q) (block : OpenBlock) (empty : block.boxes = []) :
    (b.openBlock block).Boxed Q := by
  refine ⟨List.forall_mem_cons.2 ⟨?_, h.blocks⟩, h.inlines⟩
  simp [empty]

theorem openInline (h : b.Boxed Q) (goal : InlineGoal) (span : Span) :
    (b.openInline goal span).Boxed Q := by
  have empty (goal : InlineGoal) :
      ∀ box ∈ Inline.boxesAll (OpenInline.mk goal [] span).children, Q box := by
    simp [Inline.boxesAll]
  refine ⟨h.blocks, List.forall_mem_cons.2 ⟨empty goal, ?_⟩⟩
  split
  · simp
  · simp
  · exact List.forall_mem_singleton.2 (empty _)
  · exact h.inlines

theorem closeInline (h : b.Boxed Q) (top : b.TopIs Q) : b.closeInline.Boxed Q := by
  unfold Builder.closeInline
  split
  · exact h.drop
  next goal children span rest e =>
    have inlines := h.inlines
    rw [e, List.forall_mem_cons] at inlines
    have box : ∀ box ∈ (⟨children, span⟩ : InlineBox) :: Inline.boxesAll children, Q box :=
      List.forall_mem_cons.2 ⟨top ⟨goal, children, span⟩ (by rw [e]; rfl), inlines.1⟩
    have rest : Boxed Q { b with inlines := rest } := ⟨h.blocks, inlines.2⟩
    -- the node that is pushed has the container itself as its first box
    cases goal with
    | paragraph => exact rest.pushBlock (.paragraph children span) box
    | heading depth => exact rest.pushBlock (.heading depth children span) box
    | emphasis => exact rest.pushInline (.emphasis children span) box
    | strong => exact rest.pushInline (.strong children span) box
    | delete => exact rest.pushInline (.delete children span) box
    | link url => exact rest.pushInline (.link url children span) box
    | linkReference => exact rest.pushInline (.linkReference children span) box
    | image url => exact rest.pushInline (.image url _ span) (List.forall_mem_nil Q)

theorem closeImplicit (h : b.Boxed Q) (top : b.TopIs Q) : b.closeImplicit.Boxed Q := by
  unfold Builder.closeImplicit
  split
  · exact h.closeInline top
  · exact h

theorem closeBlock (h : b.Boxed Q) (tag : Tag) : (b.closeBlock tag).Boxed Q := by
  have popped : Boxed Q { b with blocks := b.blocks.tail } :=
    ⟨fun o member => h.blocks o (List.mem_of_mem_tail member), h.inlines⟩
  have top {container : OpenBlock} {rest : List OpenBlock} (e : b.blocks = container :: rest) :
      ∀ box ∈ container.boxes, Q box := h.blocks container (e ▸ List.mem_cons_self)
  unfold Builder.closeBlock
  simp only
  split
  next items span rest e => exact popped.pushBlock (.list items span) (top e)
  next children span rest e => exact popped.pushItem (.mk children span) (top e)
  next children span rest e => exact popped.pushBlock (.other children span) (top e)
  next children span rest e => exact popped.pushBlock (.other children span) (top e)
  · exact popped.drop

theorem start (h : b.Boxed Q) (top : b.TopIs Q) (tag : Tag) (span : Span) :
    (b.start tag span).Boxed Q := by
  have closed := h.closeImplicit top
  cases tag with
  | paragraph => exact closed.openInline _ span
  | heading depth => exact closed.openInline _ span
  | list => exact closed.openBlock (.list [] span) rfl
  | item => exact h.openBlock (.item [] span) rfl
  | quote | footnoteDefinition => exact closed.openBlock (.other [] span) rfl
  | codeBlock | htmlBlock | table => exact ⟨closed.blocks, closed.inlines⟩
  | tableHead | tableRow | tableCell => exact h
  | link form url => cases form <;> exact h.openInline _ span
  | _ => exact h.openInline _ span

theorem stop (h : b.Boxed Q) (top : b.TopIs Q) (tag : Tag) : (b.stop tag).Boxed Q := by
  cases tag with
  | list | item | quote | footnoteDefinition => exact (h.closeImplicit top).closeBlock _
  | codeBlock | htmlBlock | table | tableHead | tableRow | tableCell => exact h
  | _ => exact h.closeInline top

theorem take (h : b.Boxed Q) (top : b.TopIs Q) (event : Event) (span : Span) :
    (b.take event span).Boxed Q := by
  cases event with
  | start tag => exact h.start top tag span
  | stop tag => exact h.stop top tag
  | text value => exact h.pushText value span
  | softBreak => exact h.pushText "\n" span
  | hardBreak => exact h.pushInline (.lineBreak span) (List.forall_mem_nil Q)
  | code value => exact h.pushInline (.code value span) (List.forall_mem_nil Q)
  | html value => exact h.pushInline (.html value span) (List.forall_mem_nil Q)
  | footnoteReference label => exact h.pushInline (.footnoteReference label span) (List.forall_mem_nil Q)
  | rule => exact h.pushBlock (.other [] span) (List.forall_mem_nil Q)
  | taskMarker => exact h

theorem step (h : b.Boxed Q) (top : b.TopIs Q) (event : Event × Span) : (b.step event).Boxed Q := by
  unfold Builder.step
  split
  · exact h.take top event.1 event.2
  next span depth e =>
    split
    · exact ⟨h.blocks, h.inlines⟩
    · have closed : Boxed Q { b with sealed? := none } := ⟨h.blocks, h.inlines⟩
      exact closed.pushBlock (.other [] span) (List.forall_mem_nil Q)
    · exact ⟨h.blocks, h.inlines⟩
    · exact h

end Boxed

theorem boxed_empty : Boxed Q {} := by
  constructor
  · simp [OpenBlock.boxes, Block.boxesAll]
  · simp

/-- What holds of the innermost container whenever one is closed holds of all boxes in the end. -/
theorem Boxed.finish {Good : Builder → Prop} (h : b.Boxed Q) (good : Good b)
    (close : ∀ b, Good b → Good b.closeInline) (top : ∀ b, Good b → b.TopIs Q) :
    ∀ box ∈ b.finish.boxes, Q box := by
  -- containers that are still open at the end become boxes too
  have closed (n : Nat) (b : Builder) (h : b.Boxed Q) (good : Good b) : (b.closeInlines n).Boxed Q := by
    induction n generalizing b with
    | zero => exact h
    | succ n ih => exact ih _ (h.closeInline (top b good)) (close b good)
  have blocks := (closed b.inlines.length b h good).blocks
  unfold Builder.finish Document.boxes Builder.rootBlocks
  refine List.foldlRecOn _ _ (motive := fun bs => ∀ box ∈ Block.boxesAll bs, Q box)
    (by simp [Block.boxesAll]) ?_
  intro found good o member
  cases o with
  | root children => exact blocks _ member
  | _ => exact good

/-! ## The stack of inline containers

What happens to blocks does not change it. -/

@[simp] theorem inlines_drop (b : Builder) : b.drop.inlines = b.inlines := rfl

@[simp] theorem inlines_pushBlock (b : Builder) (block : Block) :
    (b.pushBlock block).inlines = b.inlines := by
  unfold Builder.pushBlock
  split <;> rfl

@[simp] theorem inlines_pushItem (b : Builder) (item : Item) : (b.pushItem item).inlines = b.inlines := by
  unfold Builder.pushItem
  split <;> rfl

@[simp] theorem inlines_closeBlock (b : Builder) (tag : Tag) :
    (b.closeBlock tag).inlines = b.inlines := by
  unfold Builder.closeBlock
  simp only
  split <;> simp

theorem inlines_closeInline {o : OpenInline} {rest : List OpenInline} (e : b.inlines = o :: rest) :
    b.closeInline.inlines =
      match o.goal.node? o.children o.span with
      | none => rest
      | some node => ({ b with inlines := rest }.pushInline node).inlines := by
  obtain ⟨goal, children, span⟩ := o
  unfold Builder.closeInline
  rw [e]
  cases goal <;> simp [InlineGoal.node?]

/-! ## Joined texts -/

def Joined (b : Builder) : Prop := ∀ o ∈ b.inlines, o.box.Merged

namespace Joined

theorem of_inlines {c : Builder} (h : b.Joined) (same : c.inlines = b.inlines) : c.Joined := by
  unfold Joined
  rw [same]
  exact h

theorem pushInline (h : b.Joined) {node : Inline}
    (fits : node.kind = .text →
      ∀ o ∈ b.inlines.head?, ∀ m ∈ o.children.getLast?, m.kind ≠ .text) :
    (b.pushInline node).Joined := by
  unfold Builder.pushInline
  split
  next e =>
    refine List.forall_mem_singleton.2 ?_
    exact List.isChain_singleton node
  next top rest e =>
    unfold Joined at h
    rw [e, List.forall_mem_cons] at h
    refine List.forall_mem_cons.2 ⟨h.1.concat node _ fun isText => ?_, h.2⟩
    exact fits isText top (by rw [e]; rfl)

theorem pushNode (h : b.Joined) {node : Inline} (other : node.kind ≠ .text) :
    (b.pushInline node).Joined := h.pushInline fun isText => absurd isText other

theorem pushText (h : b.Joined) (value : String) (span : Span) : (b.pushText value span).Joined := by
  unfold Builder.pushText
  split
  next top rest e =>
    split
    next before at' last =>
      -- the last text grows, and what stands before it was no text already
      unfold Joined at h
      rw [e, List.forall_mem_cons] at h
      obtain ⟨front, split⟩ := List.getLast?_eq_some_iff.1 last
      obtain ⟨here, others⟩ := h
      refine List.forall_mem_cons.2 ⟨?_, others⟩
      show InlineBox.Merged ⟨top.children.dropLast ++ [_], _⟩
      unfold OpenInline.box at here
      rw [split] at here ⊢
      rw [List.dropLast_concat]
      exact here.exchange rfl _
    next other =>
      refine h.pushInline fun _ o here m last isText => ?_
      rw [e] at here
      cases here
      cases m with
      | text before at' => exact other before at' last
      | _ => cases isText
  next e =>
    refine h.pushInline fun _ o here => ?_
    rw [e] at here
    cases here

theorem openInline (h : b.Joined) (goal : InlineGoal) (span : Span) :
    (b.openInline goal span).Joined := by
  have empty (goal : InlineGoal) : (OpenInline.mk goal [] span).box.Merged := InlineBox.merged_nil span
  refine List.forall_mem_cons.2 ⟨empty goal, ?_⟩
  split
  · simp
  · simp
  · exact List.forall_mem_singleton.2 (empty _)
  · exact h

theorem closeInline (h : b.Joined) : b.closeInline.Joined := by
  cases e : b.inlines with
  | nil =>
    unfold Builder.closeInline
    rw [e]
    exact h
  | cons o rest =>
    unfold Joined at h ⊢
    rw [inlines_closeInline e]
    rw [e, List.forall_mem_cons] at h
    cases becomes : o.goal.node? o.children o.span with
    | none => exact h.2
    | some node =>
      have others : Joined { b with inlines := rest } := h.2
      refine others.pushNode ?_
      cases goal : o.goal <;> rw [goal] at becomes <;> cases becomes <;> simp [Inline.kind]

theorem closeImplicit (h : b.Joined) : b.closeImplicit.Joined := by
  unfold Builder.closeImplicit
  split
  · exact h.closeInline
  · exact h

theorem start (h : b.Joined) (tag : Tag) (span : Span) : (b.start tag span).Joined := by
  have closed := h.closeImplicit
  cases tag with
  | paragraph => exact closed.openInline _ span
  | heading depth => exact closed.openInline _ span
  | list | quote | footnoteDefinition | codeBlock | htmlBlock | table => exact closed
  | item | tableHead | tableRow | tableCell => exact h
  | link form url => cases form <;> exact h.openInline _ span
  | _ => exact h.openInline _ span

theorem stop (h : b.Joined) (tag : Tag) : (b.stop tag).Joined := by
  cases tag with
  | list | item | quote | footnoteDefinition =>
    exact h.closeImplicit.of_inlines (inlines_closeBlock _ _)
  | codeBlock | htmlBlock | table | tableHead | tableRow | tableCell => exact h
  | _ => exact h.closeInline

theorem step (h : b.Joined) (event : Event × Span) : (b.step event).Joined := by
  unfold Builder.step
  split
  · obtain ⟨event, span⟩ := event
    cases event with
    | start tag => exact h.start tag span
    | stop tag => exact h.stop tag
    | text value => exact h.pushText value span
    | softBreak => exact h.pushText "\n" span
    | rule => exact h.of_inlines (inlines_pushBlock _ _)
    | taskMarker => exact h
    | _ => exact h.pushNode (by simp [Inline.kind])
  next span depth e =>
    split
    · exact h
    · exact h.of_inlines (inlines_pushBlock _ _)
    · exact h
    · exact h

theorem topIs (h : b.Joined) : b.TopIs InlineBox.Merged := fun o here =>
  h o (List.mem_of_mem_head? here)

theorem run (h : b.Joined) (boxed : b.Boxed InlineBox.Merged) (events : Events) :
    (events.foldl Builder.step b).Joined ∧ (events.foldl Builder.step b).Boxed InlineBox.Merged := by
  induction events generalizing b with
  | nil => exact ⟨h, boxed⟩
  | cons event events ih => exact ih (h.step event) (boxed.step h.topIs event)

end Joined

end Builder

/-- In no box of a document two texts are next to each other, whatever the events are. -/
theorem merged_of_mem_boxes (events : Events) :
    ∀ box ∈ (Document.ofEvents events).boxes, box.Merged := by
  have empty : Builder.Joined {} := fun o member => by cases member
  obtain ⟨joined, boxed⟩ := empty.run Builder.boxed_empty events
  exact boxed.finish joined (fun b h => h.closeInline) (fun b h => h.topIs)

end CuratedList.Markdown
