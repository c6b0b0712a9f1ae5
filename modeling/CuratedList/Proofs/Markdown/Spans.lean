import CuratedList.Proofs.Markdown.Boxes
import CuratedList.Proofs.Markdown.Nesting
import CuratedList.Proofs.Markdown.Order

/-! # Boxes hold their nodes in order

The spans of events are ordered and nested like the events if each event comes after what was read before
it and lies in the containers that are open (`SpansNest`). Then the nodes of each box follow one another and
lie in the box.

The builder keeps this for containers that are half built (`Held`). An open container covers the nodes it has
so far, and starts where the nodes of the container around it end, or later. It does not yet lie in that
container: this is so once it is closed, because the container around it is then widened to cover it. What
bounds it until then is the span of its start event. A paragraph that no event started has no such bound; it
is the outermost open container and has nothing around it.
-/

namespace CuratedList.Markdown
set_option autoImplicit false

/-! ## Events with nested spans -/

/-- Where the next event may start. -/
def resume (event : Event × Span) : Nat :=
  match event.1 with
  | .start _ => event.2.start
  | _ => event.2.stop

/-- The event comes after all that ends at `pos` and lies in the open containers. A container stops with
the span that it started with. -/
def Follows (opened : OpenTags) (pos : Nat) (event : Event × Span) : Prop :=
  match event.1 with
  | .stop tag => opened.head? = some (tag, event.2)
  | _ =>
    pos ≤ event.2.start ∧ event.2.start ≤ event.2.stop ∧
      ∀ o ∈ opened, event.2.stop ≤ o.2.stop

instance (opened : OpenTags) (pos : Nat) (event : Event × Span) : Decidable (Follows opened pos event) :=
  match event with
  | (.stop tag, s) => inferInstanceAs (Decidable (opened.head? = some (tag, s)))
  | (.start _, s) | (.text _, s) | (.code _, s) | (.html _, s) | (.footnoteReference _, s)
  | (.softBreak, s) | (.hardBreak, s) | (.rule, s) | (.taskMarker, s) =>
    inferInstanceAs
      (Decidable (pos ≤ s.start ∧ s.start ≤ s.stop ∧ ∀ o ∈ opened, s.stop ≤ o.2.stop))

/-- The events are ordered and nested, inside open containers and after `pos`. -/
def SpansNestIn (opened : OpenTags) (pos : Nat) : Events → Prop
  | [] => True
  | event :: events =>
    Follows opened pos event ∧ SpansNestIn (opened.after event) (resume event) events

instance (opened : OpenTags) (pos : Nat) (events : Events) :
    Decidable (SpansNestIn opened pos events) :=
  match events with
  | [] => inferInstanceAs (Decidable True)
  | event :: events =>
    have := instDecidableSpansNestIn (opened.after event) (resume event) events
    inferInstanceAs (Decidable (_ ∧ _))

/-- The spans of events are ordered and nested like the events. -/
def SpansNest (events : Events) : Prop := SpansNestIn [] 0 events

instance (events : Events) : Decidable (SpansNest events) :=
  inferInstanceAs (Decidable (SpansNestIn [] 0 events))

/-- The open containers lie in one another, and what is read next may still lie in all of them. -/
structure Room (opened : OpenTags) (pos : Nat) : Prop where
  nested : opened.Pairwise fun inner outer => inner.2.stop ≤ outer.2.stop
  inside : ∀ o ∈ opened, pos ≤ o.2.stop

section

variable {opened : OpenTags} {pos : Nat} {event : Event × Span}

theorem Follows.le_resume (follows : Follows opened pos event) (room : Room opened pos) :
    pos ≤ resume event := by
  obtain ⟨event, s⟩ := event
  cases event with
  | start tag => exact follows.1
  | stop tag => exact room.inside _ (List.mem_of_mem_head? follows)
  | _ => exact follows.1.trans follows.2.1

theorem Room.after (room : Room opened pos) (follows : Follows opened pos event) :
    Room (opened.after event) (resume event) := by
  obtain ⟨event, s⟩ := event
  cases event with
  | start tag =>
    obtain ⟨-, forward, inside⟩ := follows
    refine ⟨List.pairwise_cons.2 ⟨inside, room.nested⟩, List.forall_mem_cons.2 ⟨forward, ?_⟩⟩
    exact fun o member => forward.trans (inside o member)
  | stop tag =>
    obtain ⟨outer, rfl⟩ := List.head?_eq_some_iff.1 follows
    exact ⟨(List.pairwise_cons.1 room.nested).2, (List.pairwise_cons.1 room.nested).1⟩
  | _ => exact ⟨room.nested, follows.2.2⟩

end

/-! ## Open inline containers of a stream -/

/-- The spans of the open containers of inline content, innermost first. -/
def rowSpans (opened : OpenTags) : List Span :=
  (opened.filter fun o => o.1.place == .row).map Prod.snd

section

variable {opened : OpenTags} {pos : Nat} {tag : Tag}

theorem rowSpans_cons_row (row : tag.place = .row) (s : Span) :
    rowSpans ((tag, s) :: opened) = s :: rowSpans opened := by
  simp [rowSpans, row]

theorem rowSpans_cons_other (other : tag.place ≠ .row) (s : Span) :
    rowSpans ((tag, s) :: opened) = rowSpans opened := by
  simp [rowSpans, other]

/-- What lies in all open containers lies in those of inline content. -/
theorem stop_le_of_mem_rowSpans {stop : Nat} (inside : ∀ o ∈ opened, stop ≤ o.2.stop) :
    ∀ t ∈ rowSpans opened, stop ≤ t.stop := by
  intro t member
  obtain ⟨o, here, rfl⟩ := List.mem_map.1 member
  exact inside o (List.mem_of_mem_filter here)

end

/-! ## Half-built containers -/

/-- The open inline containers hold what is in order and ends at `pos` or before. Each of them ends where
its span from the stream does, or before. -/
inductive Held : List Span → Nat → List OpenInline → Prop
  | none {pos : Nat} : Held [] pos []
  | implicit {pos : Nat} {r : Row} (upto : r.Upto pos) (forward : r.span.start ≤ r.span.stop) :
      Held [] pos [r.opened (.paragraph true)]
  | named {spans : List Span} {pos : Nat} {s : Span} {goal : InlineGoal} {r : Row}
      {rest : List OpenInline} (explicit : goal ≠ .paragraph true) (upto : r.Upto pos)
      (forward : r.span.start ≤ r.span.stop) (inside : r.span.stop ≤ s.stop)
      (around : Held spans r.span.start rest) : Held (s :: spans) pos (r.opened goal :: rest)

/-- The node of a container has its span, and is in order if what it holds is. -/
theorem InlineGoal.node?_eq_some {goal : InlineGoal} {children : List Inline} {span : Span}
    {node : Inline} (becomes : goal.node? children span = some node) :
    node.span = span ∧
      (span.start ≤ span.stop → Inline.AllInOrder span children → node.InOrder) := by
  cases goal with
  | paragraph | heading => cases becomes
  | image url =>
    cases becomes
    exact ⟨rfl, fun forward _ => forward⟩
  | _ =>
    cases becomes
    exact ⟨rfl, fun forward inOrder => ⟨forward, inOrder⟩⟩

namespace Held

variable {spans : List Span} {pos : Nat} {b : Builder}

theorem mono {os : List OpenInline} (h : Held spans pos os) {next : Nat} (le : pos ≤ next) :
    Held spans next os := by
  cases h with
  | none => exact .none
  | implicit upto forward => exact .implicit (upto.mono le) forward
  | named explicit upto forward inside around => exact .named explicit (upto.mono le) forward inside around

theorem extend {o : OpenInline} {rest : List OpenInline} (h : Held spans pos (o :: rest)) {next : Row}
    {t : Span} (after : pos ≤ t.start) (inside : ∀ s ∈ spans, t.stop ≤ s.stop)
    (span : next.span = o.span.cover t)
    (upto : Row.Upto pos ⟨o.children, o.span⟩ → next.Upto t.stop) :
    Held spans t.stop (next.opened o.goal :: rest) := by
  cases h with
  | @implicit _ r held le =>
    have start : next.span.start ≤ r.span.start := span ▸ Nat.min_le_left ..
    have stop : r.span.stop ≤ next.span.stop := span ▸ Nat.le_max_left ..
    exact .implicit (upto held) (by omega)
  | @named spans _ s goal r rest explicit held le within around =>
    -- a container never grows to the left, so the containers around it end before it as they did
    have start : next.span.start = r.span.start :=
      span ▸ Nat.min_eq_left (held.start.trans after)
    have stop : r.span.stop ≤ next.span.stop := span ▸ Nat.le_max_left ..
    have bounded : next.span.stop ≤ s.stop :=
      span ▸ Nat.max_le.2 ⟨within, inside s List.mem_cons_self⟩
    exact .named explicit (upto held) (by omega) bounded (start ▸ around)

theorem pushInline (h : Held spans pos b.inlines) {node : Inline} (after : pos ≤ node.span.start)
    (inOrder : node.InOrder) (inside : ∀ s ∈ spans, node.span.stop ≤ s.stop) :
    Held spans node.span.stop (b.pushInline node).inlines := by
  have forward : node.span.start ≤ node.span.stop := ((Inline.inOrder_iff node).1 inOrder).1
  unfold Builder.pushInline
  split
  next e =>
    rw [e] at h
    cases h
    have row := (Row.Upto.nil node.span).push (Nat.le_refl _) inOrder
    rw [Row.push, Span.cover_self] at row
    exact .implicit row forward
  next top rest e =>
    rw [e] at h
    show Held spans node.span.stop
      (Row.opened top.goal (Row.push ⟨top.children, top.span⟩ node) :: rest)
    exact h.extend after inside rfl fun held => held.push after inOrder

theorem pushText (h : Held spans pos b.inlines) (value : String) {s : Span} (after : pos ≤ s.start)
    (forward : s.start ≤ s.stop) (inside : ∀ t ∈ spans, s.stop ≤ t.stop) :
    Held spans s.stop (b.pushText value s).inlines := by
  cases e : b.inlines with
  | nil =>
    have alone : b.pushText value s = b.pushInline (.text value s) := by
      unfold Builder.pushText
      rw [e]
    rw [alone]
    have pushed : Held spans (Inline.text value s).span.stop (b.pushInline (.text value s)).inlines :=
      h.pushInline after forward inside
    exact pushed
  | cons top rest =>
    have grown : (b.pushText value s).inlines =
        (Row.pushText ⟨top.children, top.span⟩ value s).opened top.goal :: rest := by
      unfold Builder.pushText Row.pushText Builder.pushInline
      rw [e]
      simp only
      cases top.children.getLast? with
      | none => rfl
      | some last => cases last <;> rfl
    rw [grown]
    rw [e] at h
    exact h.extend after inside (Row.span_pushText ..) fun held => held.pushText value after forward

theorem openInline (h : Held spans pos b.inlines) {goal : InlineGoal} (explicit : goal ≠ .paragraph true)
    {s : Span} (after : pos ≤ s.start) (forward : s.start ≤ s.stop) :
    Held (s :: spans) s.start (b.openInline goal s).inlines := by
  have empty := Row.Upto.nil s
  have within {around : List OpenInline} (held : Held spans s.start around) :
      Held (s :: spans) s.start (⟨goal, [], s⟩ :: around) :=
    .named (r := { span := s }) explicit empty forward (Nat.le_refl _) held
  have outer := h.mono after
  unfold Builder.openInline
  cases e : b.inlines with
  | nil =>
    rw [e] at outer
    cases goal with
    | paragraph | heading => exact within outer
    | _ =>
      -- a node outside of any paragraph opens one around it
      cases outer
      exact within (.implicit (r := { span := s }) empty forward)
  | cons top rest =>
    rw [e] at outer
    exact within outer

theorem closeInline {s : Span} (h : Held (s :: spans) pos b.inlines)
    (nested : ∀ t ∈ spans, s.stop ≤ t.stop) : Held spans s.stop b.closeInline.inlines := by
  cases e : b.inlines with
  | nil =>
    rw [e] at h
    cases h
  | cons o rest =>
    rw [e] at h
    rw [Builder.inlines_closeInline e]
    cases h with
    | @named _ _ _ goal r _ explicit upto forward inside around =>
      have later : r.span.start ≤ s.stop := forward.trans inside
      cases becomes : goal.node? r.children r.span with
      | none =>
        simp only [Row.opened, becomes]
        exact around.mono later
      | some node =>
        simp only [Row.opened, becomes]
        -- around it all ends where the node starts, and is widened to where the node stops
        obtain ⟨span, inOrder⟩ := InlineGoal.node?_eq_some becomes
        have pushed : Held spans node.span.stop ({ b with inlines := rest }.pushInline node).inlines :=
          pushInline (b := { b with inlines := rest }) around (span ▸ Nat.le_refl _)
            (inOrder forward upto.inOrder) fun t member => span ▸ inside.trans (nested t member)
        exact pushed.mono (span ▸ inside)

theorem closeImplicit (h : Held spans pos b.inlines) : Held spans pos b.closeImplicit.inlines := by
  unfold Builder.closeImplicit
  split
  next children span rest e =>
    rw [Builder.inlines_closeInline e]
    rw [e] at h
    cases h with
    | implicit => exact .none
    | named explicit => exact absurd rfl explicit
  next => exact h

end Held

/-! ## Sealed containers -/

namespace Builder

variable (b : Builder)

@[simp] theorem sealed?_pushBlock (block : Block) : (b.pushBlock block).sealed? = b.sealed? := by
  unfold pushBlock
  split <;> rfl

@[simp] theorem sealed?_pushItem (item : Item) : (b.pushItem item).sealed? = b.sealed? := by
  unfold pushItem
  split <;> rfl

@[simp] theorem sealed?_pushInline (node : Inline) : (b.pushInline node).sealed? = b.sealed? := by
  unfold pushInline
  split <;> rfl

@[simp] theorem sealed?_pushText (value : String) (s : Span) :
    (b.pushText value s).sealed? = b.sealed? := by
  unfold pushText
  split
  · split <;> simp
  · simp

@[simp] theorem sealed?_openInline (goal : InlineGoal) (s : Span) :
    (b.openInline goal s).sealed? = b.sealed? := rfl

@[simp] theorem sealed?_closeInline : b.closeInline.sealed? = b.sealed? := by
  unfold closeInline
  split
  · rfl
  next goal children span rest e => cases goal <;> simp

@[simp] theorem sealed?_closeImplicit : b.closeImplicit.sealed? = b.sealed? := by
  unfold closeImplicit
  split <;> simp

@[simp] theorem sealed?_closeBlock (tag : Tag) : (b.closeBlock tag).sealed? = b.sealed? := by
  unfold closeBlock
  simp only
  split <;> simp [drop]

end Builder

def outsideSealed (hidden : Option OpenSealed) (opened : OpenTags) : OpenTags :=
  match hidden with
  | none => opened
  | some o => opened.drop (o.depth + 1)

/-- What a builder holds after the events that left these containers open. -/
structure Tracks (opened : OpenTags) (pos : Nat) (b : Builder) : Prop where
  room : Room opened pos
  held : Held (rowSpans (outsideSealed b.sealed? opened)) pos b.inlines

theorem tracks_empty : Tracks [] 0 {} := ⟨⟨List.Pairwise.nil, by simp⟩, .none⟩

section

variable {opened : OpenTags} {pos : Nat} {b : Builder}

theorem held_openInline {tag : Tag} (row : tag.place = .row) {goal : InlineGoal}
    (explicit : goal ≠ .paragraph true) (held : Held (rowSpans opened) pos b.inlines)
    (visible : b.sealed? = none) {s : Span} (after : pos ≤ s.start) (forward : s.start ≤ s.stop) :
    Held (rowSpans (outsideSealed (b.openInline goal s).sealed? ((tag, s) :: opened))) s.start
      (b.openInline goal s).inlines := by
  rw [Builder.sealed?_openInline, visible]
  show Held (rowSpans ((tag, s) :: opened)) s.start _
  rw [rowSpans_cons_row row]
  exact held.openInline explicit after forward

/-- A container that holds no inline content itself leaves the inline containers as they are. -/
theorem held_cons_other {tag : Tag} (other : tag.place ≠ .row)
    (held : Held (rowSpans opened) pos b.inlines) (visible : b.sealed? = none) {s : Span}
    (after : pos ≤ s.start) :
    Held (rowSpans (outsideSealed b.sealed? ((tag, s) :: opened))) s.start b.inlines := by
  rw [visible]
  show Held (rowSpans ((tag, s) :: opened)) s.start _
  rw [rowSpans_cons_other other]
  exact held.mono after

theorem held_start (held : Held (rowSpans opened) pos b.inlines) (visible : b.sealed? = none) (tag : Tag)
    {s : Span} (after : pos ≤ s.start) (forward : s.start ≤ s.stop) :
    Held (rowSpans (outsideSealed (b.start tag s).sealed? ((tag, s) :: opened))) s.start
      (b.start tag s).inlines := by
  have closed := held.closeImplicit
  have closedVisible : b.closeImplicit.sealed? = none := (Builder.sealed?_closeImplicit b).trans visible
  have sealing : Held (rowSpans (((tag, s) :: opened).drop 1)) s.start b.closeImplicit.inlines :=
    closed.mono after
  cases tag with
  | paragraph => exact held_openInline rfl (by simp) closed closedVisible after forward
  | heading depth => exact held_openInline rfl (by simp) closed closedVisible after forward
  | list | quote | footnoteDefinition =>
    exact held_cons_other (by simp [Tag.place]) closed closedVisible after
  | item | tableHead | tableRow | tableCell =>
    exact held_cons_other (by simp [Tag.place]) held visible after
  | codeBlock | htmlBlock | table => exact sealing
  | link form url =>
    cases form <;> exact held_openInline rfl (by simp) held visible after forward
  | _ => exact held_openInline rfl (by simp) held visible after forward

theorem held_stop {tag : Tag} {s : Span} (held : Held (rowSpans ((tag, s) :: opened)) pos b.inlines)
    (visible : b.sealed? = none) (room : Room ((tag, s) :: opened) pos) :
    Held (rowSpans (outsideSealed (b.stop tag).sealed? opened)) s.stop (b.stop tag).inlines := by
  have later : pos ≤ s.stop := room.inside _ List.mem_cons_self
  have nested := (List.pairwise_cons.1 room.nested).1
  have row (isRow : tag.place = .row) :
      Held (rowSpans (outsideSealed b.closeInline.sealed? opened)) s.stop b.closeInline.inlines := by
    rw [Builder.sealed?_closeInline, visible]
    rw [rowSpans_cons_row isRow] at held
    exact held.closeInline (stop_le_of_mem_rowSpans nested)
  have other (notRow : tag.place ≠ .row) : Held (rowSpans opened) s.stop b.inlines := by
    rw [rowSpans_cons_other notRow] at held
    exact held.mono later
  cases tag with
  | list | item | quote | footnoteDefinition =>
    have closed := (other (by simp [Tag.place])).closeImplicit
    simp only [Builder.stop, Builder.sealed?_closeBlock, Builder.sealed?_closeImplicit, visible,
      Builder.inlines_closeBlock]
    exact closed
  | codeBlock | htmlBlock | table | tableHead | tableRow | tableCell =>
    have same := other (by simp [Tag.place])
    simp only [Builder.stop, visible]
    exact same
  | _ => exact row rfl

theorem held_leaf (held : Held (rowSpans opened) pos b.inlines) (visible : b.sealed? = none)
    {event : Event} (leaf : event.isLeaf = true) {s : Span} (after : pos ≤ s.start)
    (forward : s.start ≤ s.stop) (inside : ∀ o ∈ opened, s.stop ≤ o.2.stop) :
    Held (rowSpans (outsideSealed (b.take event s).sealed? opened)) s.stop (b.take event s).inlines := by
  have bounded : ∀ t ∈ rowSpans opened, s.stop ≤ t.stop := stop_le_of_mem_rowSpans inside
  have node {node : Inline} (span : node.span = s) (inOrder : node.InOrder) :
      Held (rowSpans (outsideSealed (b.pushInline node).sealed? opened)) s.stop
        (b.pushInline node).inlines := by
    subst span
    rw [Builder.sealed?_pushInline, visible]
    exact held.pushInline after inOrder bounded
  have text (value : String) : Held (rowSpans (outsideSealed (b.pushText value s).sealed? opened)) s.stop
      (b.pushText value s).inlines := by
    rw [Builder.sealed?_pushText, visible]
    exact held.pushText value after forward bounded
  have same : Held (rowSpans opened) s.stop b.inlines := held.mono (after.trans forward)
  cases event with
  | start tag => cases leaf
  | stop tag => cases leaf
  | text value => exact text value
  | softBreak => exact text "\n"
  | rule =>
    simp only [Builder.take, Builder.sealed?_pushBlock, visible, Builder.inlines_pushBlock]
    exact same
  | taskMarker =>
    simp only [Builder.take, visible]
    exact same
  | _ => exact node rfl forward

theorem Tracks.step (h : Tracks opened pos b) {event : Event × Span} (follows : Follows opened pos event) :
    Tracks (opened.after event) (resume event) (b.step event) := by
  have later := follows.le_resume h.room
  refine ⟨h.room.after follows, ?_⟩
  have held := h.held
  obtain ⟨event, s⟩ := event
  unfold Builder.step
  split
  next visible =>
    rw [visible] at held
    cases event with
    | start tag => exact held_start held visible tag follows.1 follows.2.1
    | stop tag =>
      obtain ⟨outer, rfl⟩ := List.head?_eq_some_iff.1 follows
      exact held_stop held visible h.room
    | _ => exact held_leaf held visible rfl follows.1 follows.2.1 follows.2.2
  next span depth visible =>
    -- what a sealed container holds is skipped, and only moves the place on
    rw [visible] at held
    have outer : Held (rowSpans (opened.drop (depth + 1))) (resume (event, s)) b.inlines :=
      held.mono later
    cases event with
    | start tag => exact outer
    | stop tag =>
      cases depth with
      | zero =>
        simp only [Builder.sealed?_pushBlock, Builder.inlines_pushBlock]
        show Held (rowSpans opened.tail) _ _
        rw [← List.drop_one]
        exact outer
      | succ depth =>
        show Held (rowSpans (opened.tail.drop (depth + 1))) _ _
        rw [List.drop_tail]
        exact outer
    | _ =>
      show Held (rowSpans (outsideSealed b.sealed? opened)) _ _
      rw [visible]
      exact outer

end

/-! ## Documents -/

/-- What is asked of a box beside its joined texts. -/
def InOrderBox (box : InlineBox) : Prop := box.Ordered ∧ box.Encloses

theorem inOrderBox_of_allInOrder {children : List Inline} {span : Span}
    (inOrder : Inline.AllInOrder span children) : InOrderBox ⟨children, span⟩ := by
  obtain ⟨inside, apart⟩ := (Inline.allInOrder_iff ..).1 inOrder
  refine ⟨⟨fun n member => ?_, apart⟩, fun n member => (inside n member).1⟩
  exact ((Inline.inOrder_iff n).1 (inside n member).2).1

/-- Open containers can be closed, from the innermost one on. -/
def Closable (b : Builder) : Prop :=
  ∃ spans pos, Held spans pos b.inlines ∧ spans.Pairwise fun inner outer => inner.stop ≤ outer.stop

namespace Closable

variable {b : Builder}

theorem topIs (h : Closable b) : b.TopIs InOrderBox := by
  obtain ⟨spans, pos, held, -⟩ := h
  intro o here
  obtain ⟨rest, e⟩ := List.head?_eq_some_iff.1 here
  rw [e] at held
  cases held with
  | implicit upto => exact inOrderBox_of_allInOrder upto.inOrder
  | named explicit upto => exact inOrderBox_of_allInOrder upto.inOrder

theorem closeInline (h : Closable b) : Closable b.closeInline := by
  obtain ⟨spans, pos, held, nested⟩ := h
  cases spans with
  | nil =>
    -- at most a paragraph without a start event is open
    have closed : b.closeInline.inlines = [] := by
      cases e : b.inlines with
      | nil =>
        unfold Builder.closeInline
        rw [e]
        exact e
      | cons o rest =>
        rw [Builder.inlines_closeInline e]
        rw [e] at held
        cases held
        rfl
    exact ⟨[], pos, closed ▸ .none, List.Pairwise.nil⟩
  | cons s spans =>
    obtain ⟨outer, others⟩ := List.pairwise_cons.1 nested
    exact ⟨spans, s.stop, held.closeInline outer, others⟩

end Closable

variable {opened : OpenTags} {pos : Nat} {b : Builder}

theorem Room.sealed (room : Room opened pos) (hidden : Option OpenSealed) :
    (outsideSealed hidden opened).Pairwise fun inner outer => inner.2.stop ≤ outer.2.stop := by
  cases hidden with
  | none => exact room.nested
  | some o => exact room.nested.drop

theorem Tracks.closable (h : Tracks opened pos b) : Closable b :=
  ⟨_, pos, h.held, ((h.room.sealed b.sealed?).filter _).map _ fun _ _ le => le⟩

theorem Tracks.run (h : Tracks opened pos b) (boxed : b.Boxed InOrderBox) {events : Events}
    (nest : SpansNestIn opened pos events) :
    Closable (events.foldl Builder.step b) ∧ (events.foldl Builder.step b).Boxed InOrderBox := by
  induction events generalizing opened pos b with
  | nil => exact ⟨h.closable, boxed⟩
  | cons event events ih => exact ih (h.step nest.1) (boxed.step h.closable.topIs event) nest.2

theorem inOrderBox_of_mem_boxes {events : Events} (nest : SpansNest events) :
    ∀ box ∈ (Document.ofEvents events).boxes, InOrderBox box := by
  obtain ⟨closable, boxed⟩ := tracks_empty.run Builder.boxed_empty nest
  exact boxed.finish closable (fun b h => h.closeInline) (fun b h => h.topIs)

/-- In every paragraph, heading and inline container texts are joined. Where the spans of the events are
ordered and nested, its nodes follow one another and lie in it, those included whose spans the builder
makes: joined texts and paragraphs without a start event. -/
theorem boxes_joined_ordered_nested :
    (∀ events : Events, (∀ box ∈ (Document.ofEvents events).boxes, box.Merged) ∧
      (SpansNest events → ∀ box ∈ (Document.ofEvents events).boxes, box.Ordered ∧ box.Encloses)) ∧
    ∀ source : String, (∀ box ∈ (Document.ofMarkdown source).boxes, box.Merged) ∧
      (SpansNest (events source) →
        ∀ box ∈ (Document.ofMarkdown source).boxes, box.Ordered ∧ box.Encloses) := by
  have built (events : Events) : (∀ box ∈ (Document.ofEvents events).boxes, box.Merged) ∧
      (SpansNest events → ∀ box ∈ (Document.ofEvents events).boxes, box.Ordered ∧ box.Encloses) :=
    ⟨merged_of_mem_boxes events, inOrderBox_of_mem_boxes⟩
  exact ⟨built, fun source => built (events source)⟩

/-- An entry of a tight list, whose texts come in parts: an entity, a line end and an escape. -/
def partedSource : String := "- A &amp; b\n  *c \\* d* [e](f).\n"

theorem boxes_joined_ordered_nested_parted :
    SpansNest (events partedSource) ∧
      ((Document.ofMarkdown partedSource).boxes.map fun box =>
          (box.span, box.children.map fun n => (n.kind, n.span))) =
        [(⟨2, 30⟩, [(.text, ⟨2, 12⟩), (.emphasis, ⟨14, 22⟩), (.text, ⟨22, 23⟩), (.link, ⟨23, 29⟩),
            (.text, ⟨29, 30⟩)]),
          (⟨14, 22⟩, [(.text, ⟨15, 21⟩)]), (⟨23, 29⟩, [(.text, ⟨24, 25⟩)])] ∧
      ∀ box ∈ (Document.ofMarkdown partedSource).boxes, box.Merged ∧ box.Ordered ∧ box.Encloses := by
  have nest : SpansNest (events partedSource) := by decide +kernel
  obtain ⟨merged, inOrder⟩ := boxes_joined_ordered_nested.2 partedSource
  exact ⟨nest, by decide +kernel, fun box member => ⟨merged box member, inOrder nest box member⟩⟩

end CuratedList.Markdown
