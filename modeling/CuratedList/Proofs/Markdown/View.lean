import CuratedList.Markdown.Tree

/-! # Views of the builder

The view of a builder shows the frames on its stacks, without what they hold, and apart from them what all
of them hold: headings, lists and items, and characters, in document order (`Mark`). Each part of a step
has one equation about views. It says what becomes of the frames and what is added at the end, and under
which conditions on the frames nothing is left out.
-/

namespace CuratedList
set_option autoImplicit false

/-! ## What nodes hold -/

/-- What a document is made of, apart from the form of its inline nodes: a heading, list or item, or a
character of the text of a heading or paragraph. The span of a heading may be more than the one of its
start, and is left out. -/
inductive Mark where
  | heading (depth : Nat)
  | list (span : Span)
  | item (span : Span)
  | char (c : Char)
  deriving DecidableEq

/-- The characters of a text. -/
def textMarks (text : String) : List Mark := text.toList.map .char

theorem textMarks_append (s t : String) : textMarks (s ++ t) = textMarks s ++ textMarks t := by
  simp [textMarks]

mutual

/-- What a block holds, in document order. -/
def Block.marks : Block → List Mark
  | .heading depth children _ => .heading depth :: textMarks (Inline.plainTextAll children)
  | .paragraph children _ => textMarks (Inline.plainTextAll children)
  | .list items span => .list span :: Item.marksAll items
  | .other children _ => Block.marksAll children

/-- What consecutive blocks hold. -/
def Block.marksAll : List Block → List Mark
  | [] => []
  | b :: bs => b.marks ++ Block.marksAll bs

/-- What an item holds. -/
def Item.marks : Item → List Mark
  | .mk children span => .item span :: Block.marksAll children

/-- What consecutive items hold. -/
def Item.marksAll : List Item → List Mark
  | [] => []
  | i :: is => i.marks ++ Item.marksAll is

end

theorem Block.marksAll_concat (bs : List Block) (block : Block) :
    Block.marksAll (bs ++ [block]) = Block.marksAll bs ++ block.marks := by
  induction bs with
  | nil => simp [Block.marksAll]
  | cons b bs ih => rw [List.cons_append, Block.marksAll, ih, Block.marksAll, List.append_assoc]

theorem Item.marksAll_concat (is : List Item) (item : Item) :
    Item.marksAll (is ++ [item]) = Item.marksAll is ++ item.marks := by
  induction is with
  | nil => simp [Item.marksAll]
  | cons i is ih => rw [List.cons_append, Item.marksAll, ih, Item.marksAll, List.append_assoc]

namespace Markdown

/-- What an event adds to a document. -/
def Event.marks (span : Span) : Event → List Mark
  | .start (.heading depth) => [.heading depth]
  | .start .list => [.list span]
  | .start .item => [.item span]
  | .text value | .code value | .html value => textMarks value
  | .softBreak | .hardBreak => textMarks "\n"
  | .start _ | .stop _ | .footnoteReference _ | .rule | .taskMarker => []

/-! ## Frames -/

/-- A block container without what it holds. -/
def OpenBlock.emptied : OpenBlock → OpenBlock
  | root _ => .root []
  | list _ span => .list [] span
  | item _ span => .item [] span
  | other _ span => .other [] span

/-- What an open block container holds. -/
def OpenBlock.marks : OpenBlock → List Mark
  | root children => Block.marksAll children
  | list items span => .list span :: Item.marksAll items
  | item children span => .item span :: Block.marksAll children
  | other children _ => Block.marksAll children

/-- A container of blocks, not of items. -/
def OpenBlock.takesBlocks : OpenBlock → Bool
  | list .. => false
  | root _ | item .. | other .. => true

/-- Whether the innermost of open block containers takes blocks, if there is one. -/
def topTakesBlocks? (frames : List OpenBlock) : Option Bool := frames.head?.map OpenBlock.takesBlocks

/-- A container that becomes a block, not an inline node. -/
def InlineGoal.isBlock : InlineGoal → Bool
  | paragraph _ | heading _ => true
  | emphasis | strong | delete | link _ | linkReference | image _ => false

/-- What a container adds by being opened. -/
def InlineGoal.marks : InlineGoal → List Mark
  | heading depth => [.heading depth]
  | paragraph _ | emphasis | strong | delete | link _ | linkReference | image _ => []

/-- What an open inline container holds. -/
def OpenInline.marks (o : OpenInline) : List Mark :=
  o.goal.marks ++ textMarks (Inline.plainTextAll o.children)

/-- What can be seen of a builder: the frames on its stacks without what they hold, and all that they
hold. -/
structure View where
  blocks : List OpenBlock
  goals : List InlineGoal
  sealed? : Option OpenSealed
  dropped : Nat
  marks : List Mark

namespace Builder

/-- The view of a builder. Open containers stand in each other, the inline ones in the block ones, so
that the outermost holds what comes first. -/
def view (b : Builder) : View where
  blocks := b.blocks.map OpenBlock.emptied
  goals := b.inlines.map OpenInline.goal
  sealed? := b.sealed?
  dropped := b.dropped
  marks := b.blocks.reverse.flatMap OpenBlock.marks ++ b.inlines.reverse.flatMap OpenInline.marks

/-! ## What the parts of a step do -/

section

variable (b : Builder)

/-- A block goes to the innermost block container. It comes after all text, if any is open. -/
theorem view_pushBlock (block : Block) (room : topTakesBlocks? b.view.blocks = some true)
    (last : b.view.goals = [] ∨ block.marks = []) :
    (b.pushBlock block).view = { b.view with marks := b.view.marks ++ block.marks } := by
  rcases b with ⟨_ | ⟨frame, frames⟩, inlines, hidden, dropped⟩
  · simp [view, topTakesBlocks?] at room
  · cases frame with
    | list items span => simp [view, topTakesBlocks?, OpenBlock.emptied, OpenBlock.takesBlocks] at room
    | _ =>
      rcases last with none | none
      · obtain rfl : inlines = [] := List.map_eq_nil_iff.1 none
        simp [view, pushBlock, OpenBlock.emptied, OpenBlock.marks, Block.marksAll_concat]
      · simp [view, pushBlock, OpenBlock.emptied, OpenBlock.marks, Block.marksAll_concat, none]

theorem view_pushItem (item : Item) (room : topTakesBlocks? b.view.blocks = some false)
    (last : b.view.goals = []) :
    (b.pushItem item).view = { b.view with marks := b.view.marks ++ item.marks } := by
  rcases b with ⟨_ | ⟨frame, frames⟩, inlines, hidden, dropped⟩
  · simp [view, topTakesBlocks?] at room
  · obtain rfl : inlines = [] := List.map_eq_nil_iff.1 last
    cases frame with
    | list items span => simp [view, pushItem, OpenBlock.emptied, OpenBlock.marks, Item.marksAll_concat]
    | _ => simp [view, topTakesBlocks?, OpenBlock.emptied, OpenBlock.takesBlocks] at room

/-- The inline containers when a node is added: an implicit paragraph is opened if there are none. -/
def withRow (goals : List InlineGoal) : List InlineGoal :=
  if goals = [] then [.paragraph true] else goals

theorem view_pushInline (node : Inline) :
    (b.pushInline node).view =
      { b.view with goals := withRow b.view.goals, marks := b.view.marks ++ textMarks node.plainText } := by
  rcases b with ⟨blocks, _ | ⟨top, rest⟩, hidden, dropped⟩
  · simp [view, pushInline, withRow, OpenInline.marks, InlineGoal.marks, Inline.plainTextAll]
  · simp [view, pushInline, withRow, OpenInline.marks, Inline.plainTextAll_append,
      Inline.plainTextAll, textMarks_append]

theorem view_pushText (value : String) (span : Span) :
    (b.pushText value span).view =
      { b.view with goals := withRow b.view.goals, marks := b.view.marks ++ textMarks value } := by
  have fresh := b.view_pushInline (.text value span)
  rcases b with ⟨blocks, _ | ⟨top, rest⟩, hidden, dropped⟩
  · exact fresh
  · unfold pushText
    simp only
    split
    next before at' last =>
      obtain ⟨front, split⟩ := List.getLast?_eq_some_iff.1 last
      simp [view, withRow, OpenInline.marks, split, Inline.plainTextAll_append, Inline.plainTextAll,
        Inline.plainText, textMarks_append]
    · exact fresh

theorem view_openBlock (frame : OpenBlock) (empty : frame.emptied = frame) (last : b.view.goals = []) :
    (b.openBlock frame).view =
      { b.view with blocks := frame :: b.view.blocks, marks := b.view.marks ++ frame.marks } := by
  obtain none : b.inlines = [] := List.map_eq_nil_iff.1 last
  simp [view, openBlock, empty, none]

/-- The inline containers when one is opened: outside of all others, inline content gets a paragraph. -/
def withGoal (goal : InlineGoal) (goals : List InlineGoal) : List InlineGoal :=
  if goals = [] ∧ goal.isBlock = false then [goal, .paragraph true] else goal :: goals

theorem view_openInline (goal : InlineGoal) (span : Span) :
    (b.openInline goal span).view =
      { b.view with goals := withGoal goal b.view.goals, marks := b.view.marks ++ goal.marks } := by
  rcases b with ⟨blocks, _ | ⟨top, rest⟩, hidden, dropped⟩ <;> cases goal <;>
    simp [view, openInline, withGoal, InlineGoal.isBlock, OpenInline.marks, InlineGoal.marks,
      Inline.plainTextAll, textMarks]

/-- A container that becomes a block is closed when it is the last one open. -/
theorem view_closeInline_block {goal : InlineGoal} (one : b.view.goals = [goal])
    (block : goal.isBlock = true) (room : topTakesBlocks? b.view.blocks = some true) :
    b.closeInline.view = { b.view with goals := [] } := by
  rcases b with ⟨blocks, _ | ⟨⟨goal', children, span⟩, others⟩, hidden, dropped⟩
  · simp [view] at one
  · obtain ⟨rfl, none⟩ := List.cons.inj one
    obtain rfl : others = [] := List.map_eq_nil_iff.1 none
    have closed (node : Block) := view_pushBlock ⟨blocks, [], hidden, dropped⟩ node room (.inl rfl)
    cases goal' with
    | paragraph implicit =>
      refine (closed (.paragraph children span)).trans ?_
      simp [view, OpenInline.marks, InlineGoal.marks, Block.marks]
    | heading depth =>
      refine (closed (.heading depth children span)).trans ?_
      simp [view, OpenInline.marks, InlineGoal.marks, Block.marks]
    | _ => simp [InlineGoal.isBlock] at block

/-- A container that becomes an inline node is closed inside another one. -/
theorem view_closeInline_inline {goal : InlineGoal} {goals : List InlineGoal}
    (innermost : b.view.goals = goal :: goals) (block : goal.isBlock = false) (inside : goals ≠ []) :
    b.closeInline.view = { b.view with goals } := by
  rcases b with ⟨blocks, _ | ⟨⟨goal', children, span⟩, others⟩, hidden, dropped⟩
  · simp [view] at innermost
  · obtain ⟨rfl, rfl⟩ := List.cons.inj innermost
    have row : withRow (others.map OpenInline.goal) = others.map OpenInline.goal := if_neg inside
    have nothing : goal'.marks = [] := by
      cases goal' <;> first | rfl | simp [InlineGoal.isBlock] at block
    have closed (node : Inline) (same : node.plainText = Inline.plainTextAll children) :
        (pushInline ⟨blocks, others, hidden, dropped⟩ node).view =
          { view ⟨blocks, ⟨goal', children, span⟩ :: others, hidden, dropped⟩ with
            goals := others.map OpenInline.goal } := by
      rw [view_pushInline, same]
      simp [view, row, OpenInline.marks, nothing]
    cases goal' with
    | paragraph implicit => simp [InlineGoal.isBlock] at block
    | heading depth => simp [InlineGoal.isBlock] at block
    | emphasis => exact closed (.emphasis children span) rfl
    | strong => exact closed (.strong children span) rfl
    | delete => exact closed (.delete children span) rfl
    | link url => exact closed (.link url children span) rfl
    | linkReference => exact closed (.linkReference children span) rfl
    | image url => exact closed (.image url (Inline.plainTextAll children) span) rfl

theorem view_closeImplicit (pending : b.view.goals = [] ∨
      b.view.goals = [.paragraph true] ∧ topTakesBlocks? b.view.blocks = some true) :
    b.closeImplicit.view = { b.view with goals := [] } := by
  rcases pending with none | ⟨one, room⟩
  · have same : b.closeImplicit = b := by
      rw [closeImplicit, List.map_eq_nil_iff.1 none]
    rw [same, ← none]
  · have closes : b.closeImplicit = b.closeInline := by
      rcases b with ⟨blocks, _ | ⟨⟨goal, children, span⟩, others⟩, hidden, dropped⟩
      · simp [view] at one
      · obtain ⟨rfl, -⟩ := List.cons.inj one
        rfl
    rw [closes]
    exact b.view_closeInline_block one rfl room

end

end Builder

/-! ## Frames of tags -/

namespace Tag

/-- The frame of a container on the stack of blocks, if it has one. -/
def frame? (start : Span) : Tag → Option OpenBlock
  | list => some (.list [] start)
  | item => some (.item [] start)
  | quote | footnoteDefinition => some (.other [] start)
  | _ => none

/-- The frame of a container on the stack of inline containers, if it has one. -/
def goal? : Tag → Option InlineGoal
  | paragraph => some (.paragraph false)
  | heading depth => some (.heading depth)
  | emphasis => some .emphasis
  | strong => some .strong
  | strikethrough => some .delete
  | link .direct url => some (.link url)
  | link .reference _ => some .linkReference
  | image url => some (.image url)
  | _ => none

end Tag

namespace Builder

theorem view_closeBlock (b : Builder) {tag : Tag} {start : Span} {frame : OpenBlock}
    {outer : List OpenBlock} (isFrame : tag.frame? start = some frame)
    (innermost : b.view.blocks = frame :: outer)
    (room : topTakesBlocks? outer = some (tag != .item)) (last : b.view.goals = []) :
    (b.closeBlock tag).view = { b.view with blocks := outer } := by
  rcases b with ⟨_ | ⟨top, rest⟩, inlines, hidden, dropped⟩
  · simp [view] at innermost
  · obtain ⟨same, rfl⟩ := List.cons.inj innermost
    obtain rfl : inlines = [] := List.map_eq_nil_iff.1 last
    have block (node : Block) (room : topTakesBlocks? (rest.map OpenBlock.emptied) = some true) :=
      view_pushBlock ⟨rest, [], hidden, dropped⟩ node room (.inl rfl)
    have item (node : Item) (room : topTakesBlocks? (rest.map OpenBlock.emptied) = some false) :=
      view_pushItem ⟨rest, [], hidden, dropped⟩ node room rfl
    cases tag <;> simp only [Tag.frame?, reduceCtorEq, Option.some.injEq] at isFrame <;> subst isFrame
    case list =>
      cases top <;> simp only [OpenBlock.emptied, reduceCtorEq] at same
      next items span =>
        refine (block (.list items span) room).trans ?_
        simp [view, OpenBlock.marks, Block.marks]
    case item =>
      cases top <;> simp only [OpenBlock.emptied, reduceCtorEq] at same
      next children span =>
        refine (item (.mk children span) room).trans ?_
        simp [view, OpenBlock.marks, Item.marks]
    all_goals
      cases top <;> simp only [OpenBlock.emptied, reduceCtorEq] at same
      next children span =>
        refine (block (.other children span) room).trans ?_
        simp [view, OpenBlock.marks, Block.marks]

end Builder

end Markdown
end CuratedList
