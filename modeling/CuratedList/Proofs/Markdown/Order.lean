import CuratedList.Proofs.Document.Order
import CuratedList.Proofs.Markdown.Construction

/-! # Ordered events give documents in order

The spans of events are ordered and nested like the trees that they flatten. The builder keeps this
order: when it takes a tree, everything it holds lies before that tree (`Row.Upto`, `Flow.Upto`). Spans
that it computes itself, those of joined texts and of paragraphs without a start event, cover nodes that
follow one another.

A thematic break inside a pending paragraph is the one exception. It is added before the paragraph
although it lies in it, which `Block.Precedes` allows for.
-/

namespace CuratedList.Markdown
set_option autoImplicit false

/-! ## Ordered trees -/

mutual

/-- The spans of a tree are in order. -/
def InlineTree.InOrder : InlineTree → Prop
  | .leaf _ s => s.start ≤ s.stop
  | .nest _ children s => s.start ≤ s.stop ∧ InlineTree.AllInOrder s children

/-- The spans of siblings in `s` are in order. -/
def InlineTree.AllInOrder (s : Span) : List InlineTree → Prop
  | [] => True
  | t :: ts => (t.span.Within s ∧ t.InOrder) ∧ (∀ u ∈ ts, t.span.stop ≤ u.span.start) ∧
      InlineTree.AllInOrder s ts

end

/-- Where a tree was read. -/
def FlowTree.span : FlowTree → Span
  | inline t => t.span
  | paragraph _ s | heading _ _ s | rule s | sealed _ _ s | list _ s | box _ _ s => s

/-- Where an item was read. -/
def ItemTree.span : ItemTree → Span
  | mk _ s => s

mutual

/-- The spans of a tree are in order. -/
def FlowTree.InOrder : FlowTree → Prop
  | .inline t => t.InOrder
  | .paragraph children s | .heading _ children s =>
    s.start ≤ s.stop ∧ InlineTree.AllInOrder s children
  | .rule s | .sealed _ _ s => s.start ≤ s.stop
  | .list items s => s.start ≤ s.stop ∧ ItemTree.AllInOrder s items
  | .box _ children s => s.start ≤ s.stop ∧ FlowTree.AllInOrder s children

/-- The spans of siblings in `s` are in order. -/
def FlowTree.AllInOrder (s : Span) : List FlowTree → Prop
  | [] => True
  | t :: ts => (t.span.Within s ∧ t.InOrder) ∧ (∀ u ∈ ts, t.span.stop ≤ u.span.start) ∧
      FlowTree.AllInOrder s ts

/-- The spans of an item are in order. -/
def ItemTree.InOrder : ItemTree → Prop
  | .mk children s => s.start ≤ s.stop ∧ FlowTree.AllInOrder s children

/-- The spans of items in `s` are in order. -/
def ItemTree.AllInOrder (s : Span) : List ItemTree → Prop
  | [] => True
  | i :: is => (i.span.Within s ∧ i.InOrder) ∧ (∀ j ∈ is, i.span.stop ≤ j.span.start) ∧
      ItemTree.AllInOrder s is

end

theorem InlineTree.InOrder.start_le_stop {t : InlineTree} (h : t.InOrder) :
    t.span.start ≤ t.span.stop := by
  cases t with
  | leaf l s => exact h
  | nest m children s => exact h.1

theorem InlineTree.AllInOrder.within {s : Span} {ts : List InlineTree}
    (h : InlineTree.AllInOrder s ts) : ∀ t ∈ ts, t.span.Within s := by
  induction ts with
  | nil => simp
  | cons t ts ih => exact List.forall_mem_cons.2 ⟨h.1.1, ih h.2.2⟩

theorem FlowTree.AllInOrder.within {s : Span} {ts : List FlowTree}
    (h : FlowTree.AllInOrder s ts) : ∀ t ∈ ts, t.span.Within s := by
  induction ts with
  | nil => simp
  | cons t ts ih => exact List.forall_mem_cons.2 ⟨h.1.1, ih h.2.2⟩

/-! ## Rows

The span of a row covers its nodes. A container's own span already holds what is inside it, and so
stays as it is. -/

theorem Row.span_pushText (r : Row) (value : String) (s : Span) :
    (r.pushText value s).span = r.span.cover s := by
  unfold Row.pushText
  split
  · rfl
  · rfl

mutual

theorem InlineTree.span_into (r : Row) : (t : InlineTree) → t.InOrder →
    (t.into r).span = if t.isMarker then r.span else r.span.cover t.span
  | .leaf l s, _ => by
    cases l with
    | text value => exact r.span_pushText value s
    | softBreak => exact r.span_pushText "\n" s
    | _ => rfl
  | .nest m children s, h => by
    have inner := InlineTree.span_intoAll { span := s } children h.2
    change (r.push (m.node _ (InlineTree.intoAll { span := s } children).span)).span = _
    rw [inner]
    change r.span.cover (m.node _ s).span = r.span.cover s
    rw [Markup.span_node]

theorem InlineTree.span_intoAll (r : Row) : (ts : List InlineTree) →
    InlineTree.AllInOrder r.span ts → (InlineTree.intoAll r ts).span = r.span
  | [], _ => rfl
  | t :: ts, h => by
    have here : (t.into r).span = r.span := by
      rw [InlineTree.span_into r t h.1.2]
      split
      · rfl
      · exact Span.cover_of_within h.1.1
    rw [InlineTree.intoAll, InlineTree.span_intoAll (t.into r) ts (here ▸ h.2.2), here]

end

/-- A row is in order and ends at `pos` or before. -/
structure Row.Upto (pos : Nat) (r : Row) : Prop where
  start : r.span.start ≤ pos
  inOrder : Inline.AllInOrder r.span r.children
  stops : ∀ n ∈ r.children, n.span.stop ≤ pos

namespace Row.Upto

variable {pos : Nat} {r : Row}

theorem nil (s : Span) : Row.Upto s.start { span := s } :=
  ⟨Nat.le_refl _, trivial, fun _ member => by cases member⟩

theorem mono (h : r.Upto pos) {next : Nat} (le : pos ≤ next) : r.Upto next :=
  ⟨Nat.le_trans h.start le, h.inOrder, fun n member => Nat.le_trans (h.stops n member) le⟩

theorem push (h : r.Upto pos) {n : Inline} (after : pos ≤ n.span.start) (inOrder : n.InOrder) :
    (r.push n).Upto n.span.stop := by
  have le : n.span.start ≤ n.span.stop := ((Inline.inOrder_iff n).1 inOrder).1
  refine ⟨?_, ?_, ?_⟩
  · have start : (r.push n).span.start ≤ r.span.start := Nat.min_le_left ..
    have := h.start
    omega
  · refine (Inline.allInOrder_concat ..).2 ⟨h.inOrder.mono (Span.within_cover_left ..), ?_, ?_⟩
    · exact ⟨Span.within_cover_right .., inOrder⟩
    · exact fun m member => Nat.le_trans (h.stops m member) after
  · intro m member
    rcases List.mem_append.1 member with old | new
    · have := h.stops m old
      omega
    · obtain rfl := List.mem_singleton.1 new
      exact Nat.le_refl _

/-- Joined text ends where the new part ends, and starts where the text before it does. -/
theorem pushText (h : r.Upto pos) (value : String) {s : Span} (after : pos ≤ s.start)
    (le : s.start ≤ s.stop) : (r.pushText value s).Upto s.stop := by
  unfold Row.pushText
  split
  next before at' last =>
    obtain ⟨front, split⟩ := List.getLast?_eq_some_iff.1 last
    obtain ⟨inOrder, ⟨within, textInOrder⟩, apart⟩ :=
      (Inline.allInOrder_concat ..).1 (split ▸ h.inOrder)
    have textLe : at'.start ≤ at'.stop := textInOrder
    have textStop : at'.stop ≤ pos := h.stops (.text before at') (by simp [split])
    have joinedStart : (at'.cover s).start = at'.start := Nat.min_eq_left (by omega)
    have joinedStop : (at'.cover s).stop = s.stop := Nat.max_eq_right (by omega)
    have wider := Span.within_cover_left r.span s
    refine ⟨?_, ?_, ?_⟩
    · have start : (r.span.cover s).start ≤ r.span.start := Nat.min_le_left ..
      have := h.start
      show (r.span.cover s).start ≤ s.stop
      omega
    · show Inline.AllInOrder (r.span.cover s) (r.children.dropLast ++ [_])
      rw [split, List.dropLast_concat, Inline.allInOrder_concat]
      refine ⟨inOrder.mono wider, ⟨⟨?_, ?_⟩, ?_⟩, ?_⟩
      · show (r.span.cover s).start ≤ (at'.cover s).start
        rw [joinedStart]
        exact Nat.le_trans wider.1 within.1
      · show (at'.cover s).stop ≤ (r.span.cover s).stop
        rw [joinedStop]
        exact (Span.within_cover_right r.span s).2
      · show (at'.cover s).start ≤ (at'.cover s).stop
        omega
      · intro m member
        show m.span.stop ≤ (at'.cover s).start
        rw [joinedStart]
        exact apart m member
    · intro m member
      rw [split, List.dropLast_concat] at member
      rcases List.mem_append.1 member with old | new
      · have := h.stops m (by simp [split, old])
        omega
      · rw [List.mem_singleton.1 new]
        exact Nat.le_of_eq joinedStop
  next =>
    exact h.push (n := .text value s) after le

theorem leaf (h : r.Upto pos) (l : Leaf) {s : Span} (after : pos ≤ s.start) (le : s.start ≤ s.stop) :
    (l.into r s).Upto s.stop := by
  cases l with
  | text value => exact h.pushText value after le
  | softBreak => exact h.pushText "\n" after le
  | hardBreak => exact h.push (n := .lineBreak s) after le
  | code value => exact h.push (n := .code value s) after le
  | html value => exact h.push (n := .html value s) after le
  | footnoteReference label => exact h.push (n := .footnoteReference label s) after le
  | taskMarker => exact h.mono (Nat.le_trans after le)

end Row.Upto

theorem Markup.inOrder_node (m : Markup) {s : Span} (le : s.start ≤ s.stop)
    {children : List Inline} (inOrder : Inline.AllInOrder s children) :
    (m.node children s).InOrder := by
  cases m with
  | link form url =>
    cases form with
    | direct => exact ⟨le, inOrder⟩
    | reference => exact ⟨le, inOrder⟩
  | image url => exact le
  | _ => exact ⟨le, inOrder⟩

mutual

theorem InlineTree.upto_into {pos : Nat} {r : Row} (h : r.Upto pos) : (t : InlineTree) →
    t.InOrder → pos ≤ t.span.start → (t.into r).Upto t.span.stop
  | .leaf l _, le, after => h.leaf l after le
  | .nest m children s, ordered, after => by
    have span := InlineTree.span_intoAll { span := s } children ordered.2
    have inner := InlineTree.inOrder_intoAll (Row.Upto.nil s) children ordered.2
      fun t member => (ordered.2.within t member).1
    rw [span] at inner
    have node := m.inOrder_node ordered.1 inner
    rw [InlineTree.into, span]
    have pushed := h.push (n := m.node _ s) (by rw [Markup.span_node]; exact after) node
    rw [Markup.span_node] at pushed
    exact pushed

theorem InlineTree.inOrder_intoAll {pos : Nat} {r : Row} (h : r.Upto pos) {s : Span} :
    (ts : List InlineTree) → InlineTree.AllInOrder s ts → (∀ t ∈ ts, pos ≤ t.span.start) →
    Inline.AllInOrder (InlineTree.intoAll r ts).span (InlineTree.intoAll r ts).children
  | [], _, _ => h.inOrder
  | t :: ts, ordered, after =>
    InlineTree.inOrder_intoAll (InlineTree.upto_into h t ordered.1.2 (after t List.mem_cons_self)) ts
      ordered.2.2 ordered.2.1

end

/-- The row of a container that is done. -/
theorem InlineTree.inOrder_intoAll_nil {s : Span} {ts : List InlineTree}
    (ordered : InlineTree.AllInOrder s ts) :
    (InlineTree.intoAll { span := s } ts).span = s ∧
      Inline.AllInOrder s (InlineTree.intoAll { span := s } ts).children := by
  have span := InlineTree.span_intoAll { span := s } ts ordered
  have inner := InlineTree.inOrder_intoAll (Row.Upto.nil s) ts ordered
    fun t member => (ordered.within t member).1
  rw [span] at inner
  exact ⟨span, inner⟩

/-! ## Containers of blocks -/

/-- What a container with span `s` holds so far is in order and ends at `pos` or before. -/
structure Flow.Upto (s : Span) (pos : Nat) (st : Flow) : Prop where
  inOrder : Block.AllInOrder s st.closed
  stops : ∀ b ∈ st.closed, b.span.stop ≤ pos

namespace Flow.Upto

variable {s : Span} {pos : Nat} {st : Flow}

theorem nil (s : Span) (pos : Nat) : Flow.Upto s pos {} :=
  ⟨trivial, fun _ member => by cases member⟩

theorem mono (h : st.Upto s pos) {next : Nat} (le : pos ≤ next) : st.Upto s next :=
  ⟨h.inOrder, fun b member => Nat.le_trans (h.stops b member) le⟩

/-- A block after all that is held. -/
theorem concat (h : st.Upto s pos) {b : Block} (after : pos ≤ b.span.start)
    (within : b.span.Within s) (inOrder : b.InOrder) {next : Flow}
    (closed : next.closed = st.closed ++ [b]) : next.Upto s b.span.stop := by
  have le := inOrder.start_le_stop
  constructor
  · rw [closed, Block.allInOrder_concat]
    exact ⟨h.inOrder, ⟨within, inOrder⟩, fun c member => .inr (Nat.le_trans (h.stops c member) after)⟩
  · rw [closed]
    intro c member
    rcases List.mem_append.1 member with old | new
    · have := h.stops c old
      omega
    · obtain rfl := List.mem_singleton.1 new
      exact Nat.le_refl _

theorem push (h : st.Upto s pos) {b : Block} (after : pos ≤ b.span.start) (within : b.span.Within s)
    (inOrder : b.InOrder) : (st.push b).Upto s b.span.stop :=
  h.concat after within inOrder rfl

/-- A thematic break, which goes before the pending paragraph. -/
theorem rule (h : st.Upto s pos) {at' : Span} (after : pos ≤ at'.start) (within : at'.Within s)
    (le : at'.start ≤ at'.stop) :
    Flow.Upto s at'.stop { st with done := st.done ++ [.other [] at'] } := by
  have breaks : (Block.other [] at').InOrder := ⟨le, trivial⟩
  rcases st with ⟨done, _ | r⟩
  · exact h.concat (b := .other [] at') after within breaks rfl
  · have held : Block.AllInOrder s (done ++ [.paragraph r.children r.span]) := h.inOrder
    obtain ⟨front, paragraph, apart⟩ := (Block.allInOrder_concat ..).1 held
    have stops : ∀ b ∈ done ++ [.paragraph r.children r.span], b.span.stop ≤ pos := h.stops
    constructor
    · show Block.AllInOrder s ((done ++ [.other [] at']) ++ [.paragraph r.children r.span])
      rw [Block.allInOrder_concat, Block.allInOrder_concat]
      refine ⟨⟨front, ⟨within, breaks⟩, ?_⟩, paragraph, ?_⟩
      · intro c member
        exact .inr (Nat.le_trans (stops c (List.mem_append_left _ member)) after)
      · rw [List.forall_mem_append, List.forall_mem_singleton]
        exact ⟨apart, .inl ⟨rfl, rfl⟩⟩
    · show ∀ b ∈ (done ++ [.other [] at']) ++ [.paragraph r.children r.span], b.span.stop ≤ at'.stop
      rw [List.forall_mem_append, List.forall_mem_append, List.forall_mem_singleton,
        List.forall_mem_singleton]
      rw [List.forall_mem_append, List.forall_mem_singleton] at stops
      have later : pos ≤ at'.stop := by omega
      exact ⟨⟨fun b member => Nat.le_trans (stops.1 b member) later, Nat.le_refl _⟩,
        Nat.le_trans stops.2 later⟩

/-- Bare inline content, which goes into the pending paragraph. -/
theorem bare (h : st.Upto s pos) {t : InlineTree} (after : pos ≤ t.span.start)
    (within : t.span.Within s) (ordered : t.InOrder) :
    Flow.Upto s t.span.stop { st with pending := t.pendingAfter st.pending } := by
  have le : t.span.start ≤ t.span.stop := ordered.start_le_stop
  rcases st with ⟨done, _ | r⟩
  · cases marker : t.isMarker with
    | true =>
      have same : t.pendingAfter none = none := by simp [InlineTree.pendingAfter, marker]
      rw [same]
      exact h.mono (Nat.le_trans after le)
    | false =>
      have opens : t.pendingAfter none = some (t.into { span := t.span }) := by
        simp [InlineTree.pendingAfter, marker]
      have span : (t.into { span := t.span }).span = t.span := by
        rw [InlineTree.span_into _ t ordered, marker]
        exact Span.cover_self t.span
      have row := InlineTree.upto_into (Row.Upto.nil t.span) t ordered (Nat.le_refl _)
      have inOrder := row.inOrder
      rw [span] at inOrder
      rw [opens]
      refine h.concat (b := .paragraph (t.into { span := t.span }).children t.span) after within
        ⟨le, inOrder⟩ ?_
      show done ++ [Block.paragraph _ (t.into { span := t.span }).span] = _
      rw [span]
      rfl
  · have held : Block.AllInOrder s (done ++ [.paragraph r.children r.span]) := h.inOrder
    have stops : ∀ b ∈ done ++ [.paragraph r.children r.span], b.span.stop ≤ pos := h.stops
    obtain ⟨front, ⟨inside, inOrder⟩, apart⟩ := (Block.allInOrder_concat ..).1 held
    rw [List.forall_mem_append, List.forall_mem_singleton] at stops
    have rowLe : r.span.start ≤ r.span.stop := inOrder.1
    have rowStop : r.span.stop ≤ pos := stops.2
    have row : r.Upto pos := by
      refine ⟨Nat.le_trans rowLe rowStop, inOrder.2, fun n member => ?_⟩
      exact Nat.le_trans (((Inline.allInOrder_iff ..).1 inOrder.2).1 n member).1.2 rowStop
    have next := InlineTree.upto_into row t ordered after
    obtain ⟨start, stop, stopLe⟩ : (t.into r).span.start = r.span.start ∧
        r.span.stop ≤ (t.into r).span.stop ∧ (t.into r).span.stop ≤ t.span.stop := by
      rw [InlineTree.span_into r t ordered]
      split
      · exact ⟨rfl, Nat.le_refl _, by omega⟩
      · refine ⟨Nat.min_eq_left (by omega), Nat.le_max_left .., ?_⟩
        exact Nat.max_le.2 ⟨by omega, Nat.le_refl _⟩
    constructor
    · show Block.AllInOrder s (done ++ [.paragraph (t.into r).children (t.into r).span])
      rw [Block.allInOrder_concat]
      refine ⟨front, ⟨⟨?_, ?_⟩, ?_, next.inOrder⟩, fun c member => ?_⟩
      · show s.start ≤ (t.into r).span.start
        rw [start]
        exact inside.1
      · exact Nat.le_trans stopLe within.2
      · show (t.into r).span.start ≤ (t.into r).span.stop
        omega
      · rcases apart c member with ⟨leaf, -⟩ | before
        · exact .inl ⟨leaf, rfl⟩
        · right
          show c.span.stop ≤ (t.into r).span.start
          rw [start]
          exact before
    · show ∀ b ∈ done ++ [.paragraph (t.into r).children (t.into r).span], b.span.stop ≤ t.span.stop
      rw [List.forall_mem_append, List.forall_mem_singleton]
      have later : pos ≤ t.span.stop := by omega
      exact ⟨fun b member => Nat.le_trans (stops.1 b member) later, stopLe⟩

end Flow.Upto

theorem FlowTree.exists_of_mem_itemsOf {is : List ItemTree} {j : Item}
    (member : j ∈ FlowTree.itemsOf is) : ∃ i ∈ is, j.span = i.span := by
  induction is with
  | nil => cases member
  | cons i is ih =>
    rcases List.mem_cons.1 member with rfl | later
    · obtain ⟨children, span⟩ := i
      exact ⟨_, List.mem_cons_self, rfl⟩
    · obtain ⟨k, here, span⟩ := ih later
      exact ⟨k, List.mem_cons_of_mem _ here, span⟩

mutual

theorem FlowTree.upto_into {s : Span} {pos : Nat} {st : Flow} (h : st.Upto s pos) :
    (t : FlowTree) → t.InOrder → t.span.Within s → pos ≤ t.span.start →
    (t.into st).Upto s t.span.stop
  | .inline _, ordered, within, after => h.bare after within ordered
  | .paragraph children at', ordered, within, after => by
    obtain ⟨span, inOrder⟩ := InlineTree.inOrder_intoAll_nil ordered.2
    rw [FlowTree.into, span]
    exact h.push (b := .paragraph _ at') after within ⟨ordered.1, inOrder⟩
  | .heading depth children at', ordered, within, after => by
    obtain ⟨span, inOrder⟩ := InlineTree.inOrder_intoAll_nil ordered.2
    rw [FlowTree.into, span]
    exact h.push (b := .heading depth _ at') after within ⟨ordered.1, inOrder⟩
  | .rule _, ordered, within, after => h.rule after within ordered
  | .sealed _ _ at', ordered, within, after =>
    h.push (b := .other [] at') after within ⟨ordered, trivial⟩
  | .list items at', ordered, within, after =>
    h.push (b := .list (FlowTree.itemsOf items) at') after within
      ⟨ordered.1, FlowTree.inOrder_itemsOf items ordered.2⟩
  | .box _ children at', ordered, within, after =>
    h.push (b := .other (FlowTree.intoAll {} children).closed at') after within
      ⟨ordered.1, FlowTree.inOrder_intoAll (.nil at' at'.start) children ordered.2
        fun t member => (ordered.2.within t member).1⟩

theorem FlowTree.inOrder_intoAll {s : Span} {pos : Nat} {st : Flow} (h : st.Upto s pos) :
    (ts : List FlowTree) → FlowTree.AllInOrder s ts → (∀ t ∈ ts, pos ≤ t.span.start) →
    Block.AllInOrder s (FlowTree.intoAll st ts).closed
  | [], _, _ => h.inOrder
  | t :: ts, ordered, after =>
    FlowTree.inOrder_intoAll
      (FlowTree.upto_into h t ordered.1.2 ordered.1.1 (after t List.mem_cons_self)) ts ordered.2.2
      ordered.2.1

theorem FlowTree.inOrder_itemsOf {s : Span} :
    (is : List ItemTree) → ItemTree.AllInOrder s is → Item.AllInOrder s (FlowTree.itemsOf is)
  | [], _ => trivial
  | .mk children at' :: is, ordered => by
    have inner : Block.AllInOrder at' (FlowTree.intoAll {} children).closed :=
      FlowTree.inOrder_intoAll (.nil at' at'.start) children ordered.1.2.2
        fun t member => (ordered.1.2.2.within t member).1
    refine ⟨⟨ordered.1.1, ordered.1.2.1, inner⟩, fun j member => ?_,
      FlowTree.inOrder_itemsOf is ordered.2.2⟩
    obtain ⟨i, here, span⟩ := FlowTree.exists_of_mem_itemsOf member
    rw [span]
    exact ordered.2.1 i here

end

/-- The document of ordered events is in order. -/
theorem inOrder_ofEvents {s : Span} {ts : List FlowTree} (ordered : FlowTree.AllInOrder s ts) :
    (Document.ofEvents (FlowTree.eventsAll ts)).InOrder := by
  rw [ofEvents_eventsAll]
  exact ⟨s, FlowTree.inOrder_intoAll (.nil s s.start) ts ordered fun t member =>
    (ordered.within t member).1⟩

end CuratedList.Markdown
