import CuratedList.Markdown.Event

/-! # Well placed events

A stream of events opens and closes containers. The containers that are open make out the place where the
next event stands, and a place takes in some events and not others: a list takes items, the document,
items, quotes and footnote definitions take blocks and inline content, and paragraphs, headings and inline
containers take inline content. The content of code blocks, HTML blocks and tables only has to be nested.

A stream is well placed if each event fits where it stands (`WellPlaced`). No tree is needed to say so,
and what holds of a well placed stream holds of each of its prefixes.
-/

namespace CuratedList.Markdown
set_option autoImplicit false

/-! ## Places -/

/-- What a place takes in. -/
inductive Place where
  /-- Blocks and inline content. -/
  | flow
  /-- Items. -/
  | items
  /-- Inline content. -/
  | row
  /-- Anything; it is not looked at. -/
  | hidden
  deriving DecidableEq

namespace Tag

/-- The place in a container. -/
def place : Tag → Place
  | item | quote | footnoteDefinition => .flow
  | list => .items
  | paragraph | heading _ | emphasis | strong | strikethrough | link .. | image _ => .row
  | codeBlock | htmlBlock | table | tableHead | tableRow | tableCell => .hidden

/-- A container of inline content that is itself inline content. -/
def isInline : Tag → Bool
  | emphasis | strong | strikethrough | link .. | image _ => true
  | _ => false

/-- A block. The parts of tables are none, and neither are items. -/
def isBlock : Tag → Bool
  | paragraph | heading _ | list | quote | footnoteDefinition | codeBlock | htmlBlock | table => true
  | _ => false

end Tag

/-- The containers that may stand in a place. -/
def Place.takes : Place → Tag → Bool
  | flow, tag => tag.isBlock || tag.isInline
  | items, tag => tag == .item
  | row, tag => tag.isInline
  | hidden, _ => true

theorem Place.eq_flow_of_takes {p : Place} {tag : Tag} (takes : p.takes tag = true)
    (block : tag.isBlock = true) (visible : p ≠ .hidden) : p = .flow := by
  cases p with
  | flow => rfl
  | hidden => exact absurd rfl visible
  | items | row => cases tag <;> simp [Place.takes, Tag.isBlock, Tag.isInline] at takes block

theorem Place.eq_flow_of_takes_sealed {p : Place} {tag : Tag} (takes : p.takes tag = true)
    (hidden : tag.place = .hidden) (visible : p ≠ .hidden) : p = .flow := by
  cases p with
  | flow => rfl
  | hidden => exact absurd rfl visible
  | items | row => cases tag <;> simp [Place.takes, Tag.isInline, Tag.place] at takes hidden

theorem Place.eq_items_of_takes {p : Place} (takes : p.takes .item = true) (visible : p ≠ .hidden) :
    p = .items := by
  cases p <;> simp [Place.takes, Tag.isBlock, Tag.isInline] at takes visible ⊢

theorem Place.of_takes_inline {p : Place} {tag : Tag} (takes : p.takes tag = true)
    (inside : tag.isInline = true) (visible : p ≠ .hidden) : p = .flow ∨ p = .row := by
  cases p with
  | flow => exact .inl rfl
  | row => exact .inr rfl
  | hidden => exact absurd rfl visible
  | items => cases tag <;> simp [Place.takes, Tag.isInline] at takes inside

/-! ## Open containers of a stream -/

/-- The containers that are open, innermost first, each with the span of its start. -/
abbrev OpenTags := List (Tag × Span)

/-- The place inside open containers. Nothing leads out of a hidden place but its end. -/
def placeIn : OpenTags → Place
  | [] => .flow
  | (tag, _) :: outer => if placeIn outer = .hidden then .hidden else tag.place

/-- The open containers after one more event. -/
def OpenTags.after (opened : OpenTags) (event : Event × Span) : OpenTags :=
  match event.1 with
  | .start tag => (tag, event.2) :: opened
  | .stop _ => opened.tail
  | _ => opened

/-- The containers that a stream leaves open. -/
def openAfter (events : Events) : OpenTags := events.foldl OpenTags.after []

/-- The event may stand inside the open containers; a stop has to be the one of the innermost. -/
def Event.fits (opened : OpenTags) : Event → Bool
  | start tag => (placeIn opened).takes tag
  | stop tag => opened.head?.map Prod.fst == some tag
  | rule => placeIn opened == .flow || placeIn opened == .hidden
  | text _ | code _ | html _ | footnoteReference _ | softBreak | hardBreak | taskMarker =>
    placeIn opened != .items

/-- Each event fits where it stands. -/
def WellPlaced (opened : OpenTags) : Events → Prop
  | [] => True
  | event :: events => event.1.fits opened = true ∧ WellPlaced (opened.after event) events

/-- The events outside containers whose content is not looked at. -/
def inSight (opened : OpenTags) : Events → Events
  | [] => []
  | event :: events =>
    if placeIn opened = .hidden then inSight (opened.after event) events
    else event :: inSight (opened.after event) events

/-- Each open container stands where it may. -/
def ProperlyOpen : OpenTags → Prop
  | [] => True
  | (tag, _) :: outer => (placeIn outer).takes tag = true ∧ ProperlyOpen outer

theorem wellPlaced_append (opened : OpenTags) (es fs : Events) :
    WellPlaced opened (es ++ fs) ↔
      WellPlaced opened es ∧ WellPlaced (es.foldl OpenTags.after opened) fs := by
  induction es generalizing opened with
  | nil => exact (true_and _).symm ▸ Iff.rfl
  | cons e es ih => rw [List.cons_append, WellPlaced, ih, WellPlaced, and_assoc]; rfl

theorem eq_cons_of_fits_stop {opened : OpenTags} {tag : Tag} (fits : (Event.stop tag).fits opened = true) :
    ∃ start outer, opened = (tag, start) :: outer := by
  rcases opened with _ | ⟨⟨tag', start⟩, outer⟩
  · simp [Event.fits] at fits
  · obtain rfl : tag' = tag := by simpa [Event.fits] using fits
    exact ⟨start, outer, rfl⟩

theorem ProperlyOpen.after {opened : OpenTags} (h : ProperlyOpen opened) {event : Event × Span}
    (fits : event.1.fits opened = true) : ProperlyOpen (opened.after event) := by
  obtain ⟨event, s⟩ := event
  cases event with
  | start tag => exact ⟨fits, h⟩
  | stop tag =>
    obtain ⟨start, outer, rfl⟩ := eq_cons_of_fits_stop fits
    exact h.2
  | _ => exact h

end CuratedList.Markdown
