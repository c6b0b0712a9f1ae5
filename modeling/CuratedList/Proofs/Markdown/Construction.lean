import CuratedList.Markdown.Tree
import CuratedList.Proofs.Markdown.Forest

/-! # Documents by recursion on event trees

The builder takes one event at a time and keeps two stacks. On the events of a tree it does what a
recursion on the tree does: `Row` is what an inline container holds so far, `Flow` what a container of
blocks holds so far, the paragraph without a start event included. `ofEvents_eventsAll` says that the
document of a flattened forest is the one this recursion gives, spans included; the two stacks do not
appear in it.

A thematic break does not close the pending paragraph, and so comes before it (`FlowTree.into`).
-/

namespace CuratedList.Markdown
set_option autoImplicit false

/-! ## Inline containers -/

/-- The nodes of an open inline container so far, and the span that covers them. -/
structure Row where
  children : List Inline := []
  span : Span

namespace Row

/-- The row as an open container. -/
def opened (goal : InlineGoal) (r : Row) : OpenInline := ⟨goal, r.children, r.span⟩

/-- Adds a node. -/
def push (r : Row) (node : Inline) : Row := ⟨r.children ++ [node], r.span.cover node.span⟩

/-- Adds text; it joins a text node right before it. -/
def pushText (r : Row) (value : String) (span : Span) : Row :=
  match r.children.getLast? with
  | some (.text before at') =>
    ⟨r.children.dropLast ++ [.text (before ++ value) (at'.cover span)], r.span.cover span⟩
  | _ => r.push (.text value span)

end Row

/-- Adds what a leaf stands for. -/
def Leaf.into (r : Row) (span : Span) : Leaf → Row
  | text value => r.pushText value span
  | softBreak => r.pushText "\n" span
  | hardBreak => r.push (.lineBreak span)
  | code value => r.push (.code value span)
  | html value => r.push (.html value span)
  | footnoteReference label => r.push (.footnoteReference label span)
  | taskMarker => r

namespace Markup

/-- What an inline container is while it is open. -/
def goal : Markup → InlineGoal
  | emphasis => .emphasis
  | strong => .strong
  | strikethrough => .delete
  | link .direct url => .link url
  | link .reference _ => .linkReference
  | image url => .image url

/-- The node of an inline container with these nodes in it. -/
def node (children : List Inline) (span : Span) : Markup → Inline
  | emphasis => .emphasis children span
  | strong => .strong children span
  | strikethrough => .delete children span
  | link .direct url => .link url children span
  | link .reference _ => .linkReference children span
  | image url => .image url (Inline.plainTextAll children) span

@[simp] theorem span_node (m : Markup) (children : List Inline) (span : Span) :
    (m.node children span).span = span := by
  cases m with
  | link form url => cases form <;> rfl
  | _ => rfl

end Markup

namespace InlineTree

mutual

/-- Adds what a tree stands for. -/
def into (r : Row) : InlineTree → Row
  | leaf l s => l.into r s
  | nest m children s =>
    let inner := intoAll { span := s } children
    r.push (m.node inner.children inner.span)

/-- Adds what consecutive trees stand for. -/
def intoAll (r : Row) : List InlineTree → Row
  | [] => r
  | t :: ts => intoAll (t.into r) ts

end

end InlineTree

/-! ## Containers of blocks -/

/-- What a container of blocks holds so far: its blocks, and the pending paragraph of bare inline
content. -/
structure Flow where
  done : List Block := []
  pending : Option Row := none

namespace Flow

/-- The blocks when the pending paragraph ends here. -/
def closed (st : Flow) : List Block :=
  match st.pending with
  | none => st.done
  | some r => st.done ++ [.paragraph r.children r.span]

/-- Ends the pending paragraph. -/
def settle (st : Flow) : Flow := ⟨st.closed, none⟩

/-- Ends the pending paragraph and adds a block. -/
def push (st : Flow) (block : Block) : Flow := ⟨st.closed ++ [block], none⟩

end Flow

/-- The paragraph that bare inline content is in, after one more tree of it. -/
def InlineTree.pendingAfter (pending : Option Row) (t : InlineTree) : Option Row :=
  match pending with
  | some r => some (t.into r)
  | none => if t.isMarker then none else some (t.into { span := t.span })

namespace FlowTree

mutual

/-- Adds what a tree stands for. -/
def into (st : Flow) : FlowTree → Flow
  | inline t => { st with pending := t.pendingAfter st.pending }
  | paragraph children s =>
    let r := InlineTree.intoAll { span := s } children
    st.push (.paragraph r.children r.span)
  | heading depth children s =>
    let r := InlineTree.intoAll { span := s } children
    st.push (.heading depth r.children r.span)
  | rule s => { st with done := st.done ++ [.other [] s] }
  | sealed _ _ s => st.push (.other [] s)
  | list items s => st.push (.list (itemsOf items) s)
  | box _ children s => st.push (.other (intoAll {} children).closed s)

/-- Adds what consecutive trees stand for. -/
def intoAll (st : Flow) : List FlowTree → Flow
  | [] => st
  | t :: ts => intoAll (t.into st) ts

/-- What an item stands for. -/
def itemOf : ItemTree → Item
  | .mk children s => .mk (intoAll {} children).closed s

/-- What consecutive items stand for. -/
def itemsOf : List ItemTree → List Item
  | [] => []
  | i :: is => itemOf i :: itemsOf is

end

/-- The blocks of a forest. -/
def blocksOf (ts : List FlowTree) : List Block := (intoAll {} ts).closed

end FlowTree

/-! ## Runs of the builder -/

namespace Builder

/-- The builder after a stream of events. -/
def run (b : Builder) (events : Events) : Builder := events.foldl step b

@[simp] theorem run_nil (b : Builder) : b.run [] = b := rfl

@[simp] theorem run_cons (b : Builder) (e : Event × Span) (es : Events) :
    b.run (e :: es) = (b.step e).run es := rfl

@[simp] theorem run_append (b : Builder) (es fs : Events) : b.run (es ++ fs) = (b.run es).run fs :=
  List.foldl_append

theorem run_within (b : Builder) (tag : Tag) (span : Span) (inner : Events) :
    b.run (Events.within tag span inner) = ((b.step (.start tag, span)).run inner).step (.stop tag, span) := by
  rw [Events.within, run_cons, run_append, run_cons, run_nil]

/-! ### Inside an inline container

The builder is written out here with the open container in front: all it does is to change that row. -/

theorem pushText_opened (blocks : List OpenBlock) (dropped : Nat) (goal : InlineGoal) (r : Row)
    (rest : List OpenInline) (value : String) (s : Span) :
    pushText ⟨blocks, r.opened goal :: rest, none, dropped⟩ value s =
      ⟨blocks, (r.pushText value s).opened goal :: rest, none, dropped⟩ := by
  unfold pushText Row.pushText
  simp only [Row.opened]
  cases r.children.getLast? with
  | none => rfl
  | some last => cases last <;> rfl

theorem step_leaf (blocks : List OpenBlock) (dropped : Nat) (goal : InlineGoal) (r : Row)
    (rest : List OpenInline) (l : Leaf) (s : Span) :
    step ⟨blocks, r.opened goal :: rest, none, dropped⟩ (l.event, s) =
      ⟨blocks, (l.into r s).opened goal :: rest, none, dropped⟩ := by
  cases l with
  | text value => exact pushText_opened blocks dropped goal r rest value s
  | softBreak => exact pushText_opened blocks dropped goal r rest "\n" s
  | _ => rfl

theorem step_start_markup (blocks : List OpenBlock) (dropped : Nat) (top : OpenInline)
    (rest : List OpenInline) (m : Markup) (s : Span) :
    step ⟨blocks, top :: rest, none, dropped⟩ (.start m.tag, s) =
      ⟨blocks, Row.opened m.goal { span := s } :: top :: rest, none, dropped⟩ := by
  cases m with
  | link form url => cases form <;> rfl
  | _ => rfl

theorem step_stop_markup (blocks : List OpenBlock) (dropped : Nat) (goal : InlineGoal) (r : Row)
    (rest : List OpenInline) (m : Markup) (inner : Row) (s : Span) :
    step ⟨blocks, inner.opened m.goal :: r.opened goal :: rest, none, dropped⟩ (.stop m.tag, s) =
      ⟨blocks, (r.push (m.node inner.children inner.span)).opened goal :: rest, none, dropped⟩ := by
  cases m with
  | link form url => cases form <;> rfl
  | _ => rfl

mutual

theorem run_inline (blocks : List OpenBlock) (dropped : Nat) (goal : InlineGoal) (r : Row)
    (rest : List OpenInline) : (t : InlineTree) →
    run ⟨blocks, r.opened goal :: rest, none, dropped⟩ t.events =
      ⟨blocks, (t.into r).opened goal :: rest, none, dropped⟩
  | .leaf l s => by
    rw [InlineTree.events, run_cons, run_nil, InlineTree.into]
    exact step_leaf blocks dropped goal r rest l s
  | .nest m children s => by
    rw [InlineTree.events, run_within, step_start_markup,
      run_inlines blocks dropped m.goal { span := s } (r.opened goal :: rest) children,
      step_stop_markup, InlineTree.into]

theorem run_inlines (blocks : List OpenBlock) (dropped : Nat) (goal : InlineGoal) (r : Row)
    (rest : List OpenInline) : (ts : List InlineTree) →
    run ⟨blocks, r.opened goal :: rest, none, dropped⟩ (InlineTree.eventsAll ts) =
      ⟨blocks, (InlineTree.intoAll r ts).opened goal :: rest, none, dropped⟩
  | [] => rfl
  | t :: ts => by
    rw [InlineTree.eventsAll, run_append, run_inline blocks dropped goal r rest t,
      run_inlines blocks dropped goal (t.into r) rest ts, InlineTree.intoAll]

end

/-! ### Inside a block whose content is not looked at -/

mutual

theorem run_hidden (b : Builder) (span : Span) (depth : Nat) (h : b.sealed? = some ⟨span, depth⟩) :
    (t : HiddenTree) → b.run t.events = b
  | .leaf e he s => by
    rw [HiddenTree.events, run_cons, run_nil, step, h]
    cases e <;> first | rfl | simp [Event.isLeaf] at he
  | .nest tag children s => by
    have inner := run_hiddens { b with sealed? := some ⟨span, depth + 1⟩ } span (depth + 1) rfl children
    have start : b.step (.start tag, s) = { b with sealed? := some ⟨span, depth + 1⟩ } := by
      rw [step, h]
    rw [HiddenTree.events, run_within, start, inner]
    simp only [step]
    rw [← h]

theorem run_hiddens (b : Builder) (span : Span) (depth : Nat) (h : b.sealed? = some ⟨span, depth⟩) :
    (ts : List HiddenTree) → b.run (HiddenTree.eventsAll ts) = b
  | [] => rfl
  | t :: ts => by
    rw [HiddenTree.eventsAll, run_append, run_hidden b span depth h t, run_hiddens b span depth h ts]

end

/-! ### Inside a container of blocks -/

/-- Adds blocks to the innermost block container. -/
def pushBlocks (b : Builder) (bs : List Block) : Builder := bs.foldl pushBlock b

theorem pushBlocks_concat (b : Builder) (bs : List Block) (block : Block) :
    b.pushBlocks (bs ++ [block]) = (b.pushBlocks bs).pushBlock block := by
  rw [pushBlocks, List.foldl_append, List.foldl_cons, List.foldl_nil, pushBlocks]

theorem pushBlock_with (b : Builder) (inlines : List OpenInline) (hidden : Option OpenSealed)
    (block : Block) :
    pushBlock { b with inlines, sealed? := hidden } block =
      { b.pushBlock block with inlines, sealed? := hidden } := by
  unfold pushBlock
  rcases b with ⟨_ | ⟨top, rest⟩, _, _, _⟩
  · rfl
  · cases top <;> rfl

/-- A container that takes in one block after another takes in all of them. -/
theorem pushBlocks_openBlock (b : Builder) (container : List Block → OpenBlock)
    (takes : ∀ children block, (b.openBlock (container children)).pushBlock block =
      b.openBlock (container (children ++ [block]))) (children bs : List Block) :
    (b.openBlock (container children)).pushBlocks bs = b.openBlock (container (children ++ bs)) := by
  induction bs generalizing children with
  | nil => rw [List.append_nil]; rfl
  | cons block bs ih =>
    rw [pushBlocks, List.foldl_cons, takes, ← pushBlocks, ih, List.append_assoc, List.singleton_append]

/-- A builder whose innermost block container has taken in `st`, with nothing else open. -/
def holding (b : Builder) (st : Flow) : Builder :=
  { b.pushBlocks st.done with
    inlines := (st.pending.map (Row.opened (.paragraph true))).toList
    sealed? := none }

theorem holding_pushBlock (b : Builder) (st : Flow) (block : Block) :
    (b.holding st).pushBlock block = b.holding { st with done := st.done ++ [block] } := by
  rw [holding, pushBlock_with, holding, pushBlocks_concat]

theorem holding_closeImplicit (b : Builder) (st : Flow) :
    (b.holding st).closeImplicit = b.holding st.settle := by
  rcases st with ⟨done, _ | r⟩
  · rfl
  · exact holding_pushBlock b ⟨done, none⟩ (.paragraph r.children r.span)

theorem holding_push (b : Builder) (st : Flow) (block : Block) :
    (b.holding st.settle).pushBlock block = b.holding (st.push block) :=
  holding_pushBlock b st.settle block

/-- Bare inline content opens a paragraph if none is pending. -/
theorem run_bare (b : Builder) (st : Flow) (t : InlineTree) :
    (b.holding st).run t.events = b.holding { st with pending := t.pendingAfter st.pending } := by
  rcases st with ⟨done, _ | r⟩
  · cases t with
    | leaf l s =>
      cases l <;>
        simp [InlineTree.events, run, step, take, Leaf.event, holding, InlineTree.pendingAfter,
          InlineTree.isMarker, InlineTree.into, InlineTree.span, Leaf.into, Row.pushText, Row.push,
          Row.opened, pushText, pushInline, Inline.span]
    | nest m children s =>
      have opens : (b.holding ⟨done, none⟩).step (.start m.tag, s) =
          (b.holding ⟨done, some { span := s }⟩).step (.start m.tag, s) := by
        cases m with
        | link form url => cases form <;> rfl
        | _ => rfl
      rw [InlineTree.events, run_within, opens, ← run_within]
      exact run_inline _ _ _ { span := s } [] (.nest m children s)
  · exact run_inline _ _ _ r [] t

/-- A container of inline content that an event starts: what it holds becomes a block. -/
theorem run_row (b : Builder) (st : Flow) (tag : Tag) (goal : InlineGoal)
    (block : List Inline → Span → Block) (children : List InlineTree) (s : Span)
    (opens : (b.holding st).start tag s = (b.holding st).closeImplicit.openInline goal s)
    (alone : (b.holding st.settle).openInline goal s =
      { b.holding st.settle with inlines := [Row.opened goal { span := s }] })
    (closes : ∀ r : Row, ({ b.holding st.settle with inlines := [r.opened goal] } : Builder).stop tag =
      (b.holding st.settle).pushBlock (block r.children r.span)) :
    (b.holding st).run (Events.within tag s (InlineTree.eventsAll children)) =
      b.holding (st.push (block (InlineTree.intoAll { span := s } children).children
        (InlineTree.intoAll { span := s } children).span)) := by
  have start : (b.holding st).step (.start tag, s) =
      { b.holding st.settle with inlines := [Row.opened goal { span := s }] } := by
    change (b.holding st).start tag s = _
    rw [opens, holding_closeImplicit, alone]
  have inner : run { b.holding st.settle with inlines := [Row.opened goal { span := s }] }
        (InlineTree.eventsAll children) =
      { b.holding st.settle with
        inlines := [(InlineTree.intoAll { span := s } children).opened goal] } :=
    run_inlines _ _ goal { span := s } [] children
  rw [run_within, start, inner]
  exact (closes _).trans (holding_push b st _)

theorem run_paragraph (b : Builder) (st : Flow) (children : List InlineTree) (s : Span) :
    (b.holding st).run (FlowTree.paragraph children s).events =
      b.holding ((FlowTree.paragraph children s).into st) :=
  run_row b st .paragraph (.paragraph false) .paragraph children s rfl rfl fun _ => rfl

theorem run_heading (b : Builder) (st : Flow) (depth : Nat) (children : List InlineTree) (s : Span) :
    (b.holding st).run (FlowTree.heading depth children s).events =
      b.holding ((FlowTree.heading depth children s).into st) :=
  run_row b st (.heading depth) (.heading depth) (.heading depth) children s rfl rfl fun _ => rfl

theorem run_sealed (b : Builder) (st : Flow) (kind : SealedKind) (children : List HiddenTree)
    (s : Span) :
    (b.holding st).run (FlowTree.sealed kind children s).events =
      b.holding ((FlowTree.sealed kind children s).into st) := by
  have start : (b.holding st).step (.start kind.tag, s) =
      { b.holding st.settle with sealed? := some ⟨s, 0⟩ } := by
    rw [← holding_closeImplicit]
    cases kind <;> rfl
  rw [FlowTree.events, run_within, start, run_hiddens _ s 0 rfl children, FlowTree.into]
  exact holding_push b st _

/-- The stop of a block container, after what it has taken in. -/
theorem step_stop_holding (b : Builder) (st : Flow) (tag : Tag) (s : Span)
    (h : ∀ c : Builder, c.stop tag = c.closeImplicit.closeBlock tag) :
    (b.holding st).step (.stop tag, s) = (b.holding st.settle).closeBlock tag := by
  change (b.holding st).stop tag = _
  rw [h, holding_closeImplicit]

mutual

theorem run_flow (b : Builder) (st : Flow) :
    (t : FlowTree) → (b.holding st).run t.events = b.holding (t.into st)
  | .inline t => by
    rw [FlowTree.events, run_bare, FlowTree.into]
  | .paragraph children s => run_paragraph b st children s
  | .heading depth children s => run_heading b st depth children s
  | .rule s => by
    rw [FlowTree.events, run_cons, run_nil, FlowTree.into]
    exact holding_pushBlock b st (.other [] s)
  | .sealed kind children s => run_sealed b st kind children s
  | .list items s => by
    have start : (b.holding st).step (.start .list, s) =
        (b.holding st.settle).openBlock (.list [] s) := by
      rw [← holding_closeImplicit]
      rfl
    have inner : run ((b.holding st.settle).openBlock (.list [] s)) (FlowTree.itemEventsAll items) =
        (b.holding st.settle).openBlock (.list ([] ++ FlowTree.itemsOf items) s) :=
      run_items _ _ [] s items
    rw [FlowTree.events, run_within, start, inner, FlowTree.into]
    exact holding_push b st _
  | .box kind children s => by
    have opens : (b.holding st).step (.start kind.tag, s) =
        (b.holding st.settle).openBlock (.other [] s) := by
      rw [← holding_closeImplicit]
      cases kind <;> rfl
    have start : (b.holding st).step (.start kind.tag, s) =
        ((b.holding st.settle).openBlock (.other [] s)).holding {} := opens
    rw [FlowTree.events, run_within, start, run_flows _ _ children,
      step_stop_holding _ _ _ _ (by cases kind <;> exact fun _ => rfl), FlowTree.into]
    have inner : ((b.holding st.settle).openBlock (.other [] s)).holding
          (FlowTree.intoAll {} children).settle =
        (b.holding st.settle).openBlock (.other (FlowTree.intoAll {} children).closed s) := by
      rw [holding, pushBlocks_openBlock _ (.other · s) (fun _ _ => rfl)]
      rfl
    rw [inner]
    cases kind <;> exact holding_push b st _

theorem run_flows (b : Builder) (st : Flow) :
    (ts : List FlowTree) →
    (b.holding st).run (FlowTree.eventsAll ts) = b.holding (FlowTree.intoAll st ts)
  | [] => rfl
  | t :: ts => by
    rw [FlowTree.eventsAll, run_append, run_flow b st t, run_flows b (t.into st) ts,
      FlowTree.intoAll]

theorem run_item (rest : List OpenBlock) (dropped : Nat) (done : List Item) (s : Span) :
    (i : ItemTree) →
    run ⟨.list done s :: rest, [], none, dropped⟩ (FlowTree.itemEvents i) =
      ⟨.list (done ++ [FlowTree.itemOf i]) s :: rest, [], none, dropped⟩
  | .mk children si => by
    have start : step ⟨.list done s :: rest, [], none, dropped⟩ (.start .item, si) =
        holding ⟨.item [] si :: .list done s :: rest, [], none, dropped⟩ {} := rfl
    rw [FlowTree.itemEvents, run_within, start, run_flows _ _ children,
      step_stop_holding _ _ _ _ (fun _ => rfl), FlowTree.itemOf]
    have inner : holding ⟨.item [] si :: .list done s :: rest, [], none, dropped⟩
          (FlowTree.intoAll {} children).settle =
        ⟨.item (FlowTree.intoAll {} children).closed si :: .list done s :: rest, [], none, dropped⟩ := by
      have h := pushBlocks_openBlock ⟨.list done s :: rest, [], none, dropped⟩ (.item · si)
        (fun _ _ => rfl) [] (FlowTree.intoAll {} children).closed
      exact congrArg (fun c : Builder => { c with inlines := [], sealed? := none }) h
    rw [inner]
    rfl

theorem run_items (rest : List OpenBlock) (dropped : Nat) (done : List Item) (s : Span) :
    (is : List ItemTree) →
    run ⟨.list done s :: rest, [], none, dropped⟩ (FlowTree.itemEventsAll is) =
      ⟨.list (done ++ FlowTree.itemsOf is) s :: rest, [], none, dropped⟩
  | [] => by
    rw [FlowTree.itemsOf, List.append_nil]
    rfl
  | i :: is => by
    rw [FlowTree.itemEventsAll, run_append, run_item rest dropped done s i,
      run_items rest dropped (done ++ [FlowTree.itemOf i]) s is, FlowTree.itemsOf, List.append_assoc,
      List.singleton_append]

end

theorem finish_holding (st : Flow) : (holding {} st).finish = ⟨st.closed⟩ := by
  have start : ({} : Builder) = openBlock { blocks := [] } (.root []) := rfl
  have taken : ({} : Builder).pushBlocks st.closed = openBlock { blocks := [] } (.root st.closed) := by
    rw [start, pushBlocks_openBlock _ .root fun _ _ => rfl, List.nil_append]
  have closed : (holding {} st).finish = ⟨rootBlocks (holding {} st.settle).blocks⟩ := by
    rw [← holding_closeImplicit]
    rcases st with ⟨done, _ | r⟩ <;> rfl
  rw [closed, holding]
  exact congrArg (fun b => Document.mk (rootBlocks b.blocks)) taken

end Builder

/-- The document of a flattened forest. -/
theorem ofEvents_eventsAll (ts : List FlowTree) :
    Document.ofEvents (FlowTree.eventsAll ts) = ⟨FlowTree.blocksOf ts⟩ := by
  change (Builder.run (Builder.holding {} {}) (FlowTree.eventsAll ts)).finish = _
  rw [Builder.run_flows, Builder.finish_holding, FlowTree.blocksOf]

end CuratedList.Markdown
