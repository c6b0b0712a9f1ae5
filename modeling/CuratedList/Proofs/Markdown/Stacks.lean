import CuratedList.Proofs.Markdown.Construction
import CuratedList.Proofs.Markdown.Nesting
import CuratedList.Proofs.Markdown.View
import Mathlib.Logic.Basic

/-! # The stacks of the builder

On a well placed stream the stacks of the builder are those of the open containers, seen from inside:
`Mirrors` says which frame stands for which container. Nothing is ever left out, and the nodes on the
stacks hold every heading, list and item that was started and every character that was read, in the order
of the stream.

One step is taken at a time (`shows_step`), with a lemma for each way in which an event moves the stacks.
-/

namespace CuratedList
set_option autoImplicit false

namespace Markdown

/-! ## The stacks of open containers -/

/-- The frames of open containers on the stack of blocks, on top of the document. Each has the span of
its start. -/
def frames : OpenTags → List OpenBlock
  | [] => [.root []]
  | (tag, start) :: outer =>
    if placeIn outer = .hidden then frames outer else (tag.frame? start).toList ++ frames outer

/-- The frames of open containers on the stack of inline containers. -/
def goals : OpenTags → List InlineGoal
  | [] => []
  | (tag, _) :: outer =>
    if placeIn outer = .hidden then goals outer else tag.goal?.toList ++ goals outer

/-- The outermost open container whose content is not looked at, and how many are open in it. -/
def sealedIn : OpenTags → Option OpenSealed
  | [] => none
  | (tag, start) :: outer =>
    match sealedIn outer with
    | some hidden => some ⟨hidden.span, hidden.depth + 1⟩
    | none => if tag.place = .hidden then some { span := start } else none

/-- A paragraph or heading is outermost, and nowhere else. -/
def Anchored : List InlineGoal → Prop
  | [] => True
  | [goal] => goal.isBlock = true
  | goal :: goal' :: goals => goal.isBlock = false ∧ Anchored (goal' :: goals)

theorem anchored_cons_block {goal : InlineGoal} (block : goal.isBlock = true) (gs : List InlineGoal) :
    Anchored (goal :: gs) ↔ gs = [] := by
  cases gs <;> simp [Anchored, block]

theorem anchored_cons_inline {goal : InlineGoal} (block : goal.isBlock = false)
    (gs : List InlineGoal) : Anchored (goal :: gs) ↔ gs ≠ [] ∧ Anchored gs := by
  cases gs <;> simp [Anchored, block]

/-- The stack of inline containers: the frames of the open ones, with an implicit paragraph below them
where they would stand in no other. It may also stand alone, where blocks could. -/
inductive Rows (opened : OpenTags) : List InlineGoal → Prop
  | explicit (anchored : Anchored (goals opened)) : Rows opened (goals opened)
  | implicit (bare : placeIn opened = .flow ∨ placeIn opened = .row)
      (anchored : Anchored (goals opened ++ [.paragraph true])) :
      Rows opened (goals opened ++ [.paragraph true])

/-- The stacks of a builder are those of the open containers, and nothing was ever left out: no block
came to a list or to an empty stack, and no frame was closed as what it is not. -/
structure Mirrors (opened : OpenTags) (b : Builder) : Prop where
  blocks : b.blocks.map OpenBlock.emptied = frames opened
  inlines : Rows opened (b.inlines.map OpenInline.goal)
  hidden : b.sealed? = sealedIn opened
  kept : b.dropped = 0

theorem goal?_eq_none_iff (tag : Tag) : tag.goal? = none ↔ tag.place ≠ .row := by
  rcases tag with _ | _ | _ | _ | _ | _ | _ | _ | _ | _ | _ | _ | _ | _ | _ | ⟨_ | _, _⟩ | _ <;>
    simp [Tag.goal?, Tag.place]

theorem sealedIn_eq_none_iff (opened : OpenTags) : sealedIn opened = none ↔ placeIn opened ≠ .hidden := by
  induction opened with
  | nil => simp [sealedIn, placeIn]
  | cons top outer ih =>
    obtain ⟨tag, start⟩ := top
    rw [sealedIn, placeIn]
    cases outside : sealedIn outer with
    | none => simp [ih.1 outside]
    | some hidden =>
      have inside : placeIn outer = .hidden := by
        rw [← not_ne_iff, ← ih, outside]
        simp
      simp [inside]

section

variable {opened : OpenTags}

theorem goals_eq_nil (proper : ProperlyOpen opened) (place : placeIn opened ≠ .row) :
    goals opened = [] := by
  induction opened with
  | nil => rfl
  | cons top outer ih =>
    obtain ⟨tag, start⟩ := top
    obtain ⟨takes, proper⟩ := proper
    rw [goals]
    rw [placeIn] at place
    split at place
    next outside => rw [if_pos outside, ih proper (by simp [outside])]
    next outside =>
      have notRow : placeIn outer ≠ .row := by
        intro row
        rw [row] at takes
        cases tag <;> simp [Place.takes, Tag.isInline, Tag.place] at takes place
      rw [if_neg outside, (goal?_eq_none_iff tag).2 place, ih proper notRow]
      rfl

theorem topTakesBlocks?_of_flow (place : placeIn opened = .flow) :
    topTakesBlocks? (frames opened) = some true := by
  rcases opened with _ | ⟨⟨tag, start⟩, outer⟩
  · rfl
  · rw [placeIn] at place
    split at place
    next outside => cases place
    next outside =>
      rw [frames, if_neg outside]
      cases tag <;> first | rfl | cases place

theorem topTakesBlocks?_of_items (place : placeIn opened = .items) :
    topTakesBlocks? (frames opened) = some false := by
  rcases opened with _ | ⟨⟨tag, start⟩, outer⟩
  · cases place
  · rw [placeIn] at place
    split at place
    next outside => cases place
    next outside =>
      rw [frames, if_neg outside]
      cases tag <;> first | rfl | cases place

end

/-! ## What a step does -/

/-- What is seen of a builder inside open containers. -/
def shown (opened : OpenTags) (gs : List InlineGoal) (ms : List Mark) : View :=
  ⟨frames opened, gs, sealedIn opened, 0, ms⟩

/-- The builder has the stacks of the open containers, and its nodes hold just these marks. -/
def Shows (opened : OpenTags) (ms : List Mark) (b : Builder) : Prop :=
  ∃ gs, Rows opened gs ∧ b.view = shown opened gs ms

theorem Shows.mirrors {opened : OpenTags} {ms : List Mark} {b : Builder} (h : Shows opened ms b) :
    Mirrors opened b := by
  obtain ⟨gs, rows, seen⟩ := h
  have inlines : b.inlines.map OpenInline.goal = gs := congrArg View.goals seen
  exact ⟨congrArg View.blocks seen, inlines ▸ rows, congrArg View.sealed? seen, congrArg View.dropped seen⟩

section

variable {opened : OpenTags} {gs : List InlineGoal} {ms : List Mark} {b : Builder} {tag : Tag}

theorem sealedIn_cons (visible : placeIn opened ≠ .hidden) (start : Span) :
    sealedIn ((tag, start) :: opened) = if tag.place = .hidden then some { span := start } else none := by
  rw [sealedIn, (sealedIn_eq_none_iff opened).2 visible]

/-- A container on the stack of inline containers leaves the stack of blocks as it is. -/
theorem shown_cons_row (visible : placeIn opened ≠ .hidden) (row : tag.place = .row) (start : Span) :
    shown ((tag, start) :: opened) gs ms = shown opened gs ms := by
  have noFrame : tag.frame? start = none := by
    cases tag <;> first | rfl | cases row
  rw [shown, frames, if_neg visible, sealedIn_cons visible, row, noFrame, shown,
    (sealedIn_eq_none_iff opened).2 visible]
  rfl

theorem shown_cons_frame (visible : placeIn opened ≠ .hidden) {start : Span} {frame : OpenBlock}
    (isFrame : tag.frame? start = some frame) :
    shown ((tag, start) :: opened) gs ms =
      { shown opened gs ms with blocks := frame :: frames opened } := by
  have seen : tag.place ≠ .hidden := by
    cases tag <;> simp [Tag.frame?, Tag.place] at isFrame ⊢
  rw [shown, frames, if_neg visible, sealedIn_cons visible, if_neg seen, isFrame, shown,
    (sealedIn_eq_none_iff opened).2 visible]
  rfl

theorem shown_cons_sealed (visible : placeIn opened ≠ .hidden) (hidden : tag.place = .hidden)
    (start : Span) :
    shown ((tag, start) :: opened) gs ms =
      { shown opened gs ms with sealed? := some { span := start } } := by
  have noFrame : tag.frame? start = none := by
    cases tag <;> first | rfl | cases hidden
  rw [shown, frames, if_neg visible, sealedIn_cons visible, if_pos hidden, noFrame, shown]
  rfl

theorem goals_cons (visible : placeIn opened ≠ .hidden) (start : Span) :
    goals ((tag, start) :: opened) = tag.goal?.toList ++ goals opened := if_neg visible

theorem goals_cons_row {goal : InlineGoal} (isGoal : tag.goal? = some goal)
    (visible : placeIn opened ≠ .hidden) (start : Span) :
    goals ((tag, start) :: opened) = goal :: goals opened := by
  rw [goals_cons visible, isGoal]
  rfl

theorem goals_cons_nil (noGoal : tag.goal? = none) (visible : placeIn opened ≠ .hidden)
    (nothing : goals opened = []) (start : Span) : goals ((tag, start) :: opened) = [] := by
  rw [goals_cons visible, noGoal, nothing]
  rfl

theorem placeIn_cons (visible : placeIn opened ≠ .hidden) (start : Span) :
    placeIn ((tag, start) :: opened) = tag.place := if_neg visible

/-- Outside paragraphs and headings there are no inline containers, but for an implicit paragraph. -/
theorem Rows.eq_of_proper (rows : Rows opened gs) (proper : ProperlyOpen opened)
    (place : placeIn opened ≠ .row) :
    gs = [] ∨ gs = [.paragraph true] ∧ placeIn opened = .flow := by
  have none := goals_eq_nil proper place
  cases rows with
  | explicit => exact .inl none
  | implicit bare =>
    rw [none]
    exact .inr ⟨rfl, bare.resolve_right place⟩

theorem rows_nil (none : goals opened = []) : Rows opened [] := by
  have rows : Rows opened (goals opened) := .explicit (by rw [none]; trivial)
  rwa [none] at rows

theorem view_settled (rows : Rows opened gs) (seen : b.view = shown opened gs ms)
    (proper : ProperlyOpen opened) (place : placeIn opened ≠ .row) :
    b.closeImplicit.view = shown opened [] ms := by
  have blocks : b.view.blocks = frames opened := congrArg View.blocks seen
  have goals : b.view.goals = gs := congrArg View.goals seen
  rw [Builder.view_closeImplicit, seen]
  · rfl
  · rw [blocks, goals]
    refine (rows.eq_of_proper proper place).imp_right fun ⟨one, flow⟩ => ⟨one, ?_⟩
    exact topTakesBlocks?_of_flow flow

/-! ### Starts -/

theorem shows_start_row {goal : InlineGoal} (isGoal : tag.goal? = some goal) (row : tag.place = .row)
    (block : goal.isBlock = true) (visible : placeIn opened ≠ .hidden) (nothing : goals opened = [])
    (seen : b.view = shown opened [] ms) (start : Span) :
    Shows ((tag, start) :: opened) (ms ++ goal.marks) (b.openInline goal start) := by
  have one : goals ((tag, start) :: opened) = [goal] := by
    rw [goals_cons_row isGoal visible, nothing]
  have rows : Rows ((tag, start) :: opened) [goal] := one ▸ .explicit (one ▸ block)
  have alone : Builder.withGoal goal [] = [goal] := by simp [Builder.withGoal, block]
  refine ⟨[goal], rows, ?_⟩
  rw [Builder.view_openInline, seen, shown_cons_row visible row]
  simp [shown, alone]

/-- Inline content opened inside the inline containers, or in a new implicit paragraph. -/
theorem Rows.withGoal {goal : InlineGoal} (rows : Rows opened gs) (isGoal : tag.goal? = some goal)
    (row : tag.place = .row) (block : goal.isBlock = false) (visible : placeIn opened ≠ .hidden)
    (start : Span) : Rows ((tag, start) :: opened) (Builder.withGoal goal gs) := by
  have inside : placeIn ((tag, start) :: opened) = .row := by rw [placeIn_cons visible, row]
  have more := goals_cons_row isGoal visible start
  have pending (anchored : Anchored (goals opened ++ [.paragraph true])) :
      Rows ((tag, start) :: opened) (goal :: (goals opened ++ [.paragraph true])) := by
    rw [← List.cons_append, ← more]
    refine .implicit (.inr inside) ?_
    rw [more, List.cons_append]
    exact (anchored_cons_inline block _).2 ⟨by simp, anchored⟩
  cases rows with
  | explicit anchored =>
    by_cases none : goals opened = []
    · rw [none, List.nil_append] at pending
      rw [none, Builder.withGoal, if_pos ⟨rfl, block⟩]
      exact pending rfl
    · rw [Builder.withGoal, if_neg (by simp [none]), ← more]
      exact .explicit (more ▸ (anchored_cons_inline block _).2 ⟨none, anchored⟩)
  | implicit bare anchored =>
    rw [Builder.withGoal, if_neg (by simp)]
    exact pending anchored

theorem shows_start_inline {goal : InlineGoal} (isGoal : tag.goal? = some goal)
    (row : tag.place = .row) (block : goal.isBlock = false) (visible : placeIn opened ≠ .hidden)
    (rows : Rows opened gs) (seen : b.view = shown opened gs ms) (start : Span) :
    Shows ((tag, start) :: opened) (ms ++ goal.marks) (b.openInline goal start) := by
  refine ⟨_, rows.withGoal isGoal row block visible start, ?_⟩
  rw [Builder.view_openInline, seen, shown_cons_row visible row]
  rfl

theorem shows_start_frame {start : Span} {frame : OpenBlock} (isFrame : tag.frame? start = some frame)
    (visible : placeIn opened ≠ .hidden) (nothing : goals opened = [])
    (seen : b.view = shown opened [] ms) :
    Shows ((tag, start) :: opened) (ms ++ frame.marks) (b.openBlock frame) := by
  obtain ⟨empty, noGoal⟩ : frame.emptied = frame ∧ tag.goal? = none := by
    cases tag <;> simp only [Tag.frame?, reduceCtorEq, Option.some.injEq] at isFrame <;> subst isFrame <;>
      exact ⟨rfl, rfl⟩
  refine ⟨[], rows_nil (goals_cons_nil noGoal visible nothing start), ?_⟩
  rw [Builder.view_openBlock b frame empty (congrArg View.goals seen), seen,
    shown_cons_frame visible isFrame]
  rfl

theorem view_sealed (b : Builder) (hidden : Option OpenSealed) :
    ({ b with sealed? := hidden } : Builder).view = { b.view with sealed? := hidden } := rfl

theorem shows_start_sealed (hidden : tag.place = .hidden) (visible : placeIn opened ≠ .hidden)
    (nothing : goals opened = []) (seen : b.view = shown opened [] ms) (start : Span) :
    Shows ((tag, start) :: opened) ms { b with sealed? := some { span := start } } := by
  have noGoal : tag.goal? = none := (goal?_eq_none_iff tag).2 (by simp [hidden])
  refine ⟨[], rows_nil (goals_cons_nil noGoal visible nothing start), ?_⟩
  rw [view_sealed, seen, shown_cons_sealed visible hidden]

/-! ### Stops -/

/-- A stop leaves the stacks of the containers around its own, whose frame it takes off. -/
def Unwinds (opened : OpenTags) (tag : Tag) (gs : List InlineGoal) (ms : List Mark) (b : Builder) : Prop :=
  ∃ outer, Rows opened outer ∧ b.view = shown opened outer ms ∧
    ∀ goal, tag.goal? = some goal → gs = goal :: outer

theorem Unwinds.shows (h : Unwinds opened tag gs ms b) : Shows opened ms b := by
  obtain ⟨outer, rows, seen, -⟩ := h
  exact ⟨outer, rows, seen⟩

theorem Shows.unwinds (h : Shows opened ms b) (noGoal : tag.goal? = none) :
    Unwinds opened tag gs ms b := by
  obtain ⟨outer, rows, seen⟩ := h
  refine ⟨outer, rows, seen, fun goal isGoal => ?_⟩
  cases noGoal.symm.trans isGoal

section

variable {start : Span}

theorem unwinds_stop_row {goal : InlineGoal} (isGoal : tag.goal? = some goal) (row : tag.place = .row)
    (block : goal.isBlock = true) (flow : placeIn opened = .flow) (nothing : goals opened = [])
    (rows : Rows ((tag, start) :: opened) gs) (seen : b.view = shown ((tag, start) :: opened) gs ms) :
    Unwinds opened tag gs ms b.closeInline := by
  have visible : placeIn opened ≠ .hidden := by simp [flow]
  have one : gs = [goal] := by
    cases rows with
    | explicit => rw [goals_cons_row isGoal visible, nothing]
    | implicit bare anchored =>
      rw [goals_cons_row isGoal visible, nothing] at anchored
      cases (anchored_cons_block block _).1 anchored
  rw [shown_cons_row visible row, one] at seen
  refine ⟨[], rows_nil nothing, ?_, fun goal' isGoal' => ?_⟩
  · rw [Builder.view_closeInline_block b (congrArg View.goals seen) block, seen]
    · rfl
    · rw [seen]
      exact topTakesBlocks?_of_flow flow
  · rw [one, Option.some.inj (isGoal.symm.trans isGoal')]

theorem unwinds_stop_inline {goal : InlineGoal} (isGoal : tag.goal? = some goal) (row : tag.place = .row)
    (block : goal.isBlock = false) (visible : placeIn opened ≠ .hidden)
    (place : placeIn opened = .flow ∨ placeIn opened = .row)
    (rows : Rows ((tag, start) :: opened) gs) (seen : b.view = shown ((tag, start) :: opened) gs ms) :
    Unwinds opened tag gs ms b.closeInline := by
  have more := goals_cons_row isGoal visible start
  obtain ⟨outer, rfl, inside, rows⟩ : ∃ outer, gs = goal :: outer ∧ outer ≠ [] ∧ Rows opened outer := by
    cases rows with
    | explicit anchored =>
      rw [more, anchored_cons_inline block] at anchored
      exact ⟨_, more, anchored.1, .explicit anchored.2⟩
    | implicit bare anchored =>
      rw [more, List.cons_append, anchored_cons_inline block] at anchored
      exact ⟨_, by rw [more, List.cons_append], anchored.1, .implicit place anchored.2⟩
  rw [shown_cons_row visible row] at seen
  refine ⟨outer, rows, ?_, fun goal' isGoal' => ?_⟩
  · rw [Builder.view_closeInline_inline b (congrArg View.goals seen) block inside, seen]
    rfl
  · rw [Option.some.inj (isGoal.symm.trans isGoal')]

theorem shows_stop_frame {frame : OpenBlock} (isFrame : tag.frame? start = some frame)
    (visible : placeIn opened ≠ .hidden) (nothing : goals opened = [])
    (room : topTakesBlocks? (frames opened) = some (tag != .item))
    (seen : b.view = shown ((tag, start) :: opened) [] ms) :
    Shows opened ms (b.closeBlock tag) := by
  rw [shown_cons_frame visible isFrame] at seen
  refine ⟨[], rows_nil nothing, ?_⟩
  rw [Builder.view_closeBlock b isFrame (congrArg View.blocks seen) room (congrArg View.goals seen), seen]
  rfl

theorem shows_stop_sealed (hidden : tag.place = .hidden) (flow : placeIn opened = .flow)
    (nothing : goals opened = []) (seen : b.view = shown ((tag, start) :: opened) [] ms) :
    Shows opened ms ({ b with sealed? := none }.pushBlock (.other [] start)) := by
  have visible : placeIn opened ≠ .hidden := by simp [flow]
  have unsealed : ({ b with sealed? := none } : Builder).view = shown opened [] ms := by
    rw [view_sealed, seen, shown_cons_sealed visible hidden, shown,
      (sealedIn_eq_none_iff opened).2 visible]
  refine ⟨[], rows_nil nothing, ?_⟩
  rw [Builder.view_pushBlock, unsealed]
  · simp [shown, Block.marks, Block.marksAll]
  · rw [unsealed]
    exact topTakesBlocks?_of_flow flow
  · exact .inr rfl

end

/-! ### Leaves -/

theorem Rows.withRow (rows : Rows opened gs) (place : placeIn opened = .flow ∨ placeIn opened = .row) :
    Rows opened (Builder.withRow gs) := by
  by_cases none : gs = []
  · rw [Builder.withRow, if_pos none]
    cases rows with
    | explicit =>
      have pending : Rows opened (goals opened ++ [.paragraph true]) :=
        .implicit place (by rw [none]; rfl)
      rwa [none] at pending
    | implicit => simp at none
  · rwa [Builder.withRow, if_neg none]

theorem shows_pushText (rows : Rows opened gs) (seen : b.view = shown opened gs ms)
    (place : placeIn opened = .flow ∨ placeIn opened = .row) (value : String) (span : Span) :
    Shows opened (ms ++ textMarks value) (b.pushText value span) := by
  refine ⟨_, rows.withRow place, ?_⟩
  rw [Builder.view_pushText, seen]
  rfl

theorem shows_pushInline (rows : Rows opened gs) (seen : b.view = shown opened gs ms)
    (place : placeIn opened = .flow ∨ placeIn opened = .row) (node : Inline) :
    Shows opened (ms ++ textMarks node.plainText) (b.pushInline node) := by
  refine ⟨_, rows.withRow place, ?_⟩
  rw [Builder.view_pushInline, seen]
  rfl

/-! ### Events -/

section

variable (visible : placeIn opened ≠ .hidden) (rows : Rows opened gs)
  (seen : b.view = shown opened gs ms)

include visible rows seen

theorem shows_start (proper : ProperlyOpen opened) (takes : (placeIn opened).takes tag = true)
    (span : Span) :
    Shows ((tag, span) :: opened) (ms ++ (Event.start tag).marks span) (b.start tag span) := by
  have notRow (block : tag.isBlock = true) : placeIn opened ≠ .row := by
    simp [Place.eq_flow_of_takes takes block visible]
  have nothing (block : tag.isBlock = true) : goals opened = [] := goals_eq_nil proper (notRow block)
  have settled (block : tag.isBlock = true) : b.closeImplicit.view = shown opened [] ms :=
    view_settled rows seen proper (notRow block)
  cases tag with
  | paragraph => exact shows_start_row rfl rfl rfl visible (nothing rfl) (settled rfl) span
  | heading depth => exact shows_start_row rfl rfl rfl visible (nothing rfl) (settled rfl) span
  | list => exact shows_start_frame rfl visible (nothing rfl) (settled rfl)
  | item =>
    have items := Place.eq_items_of_takes takes visible
    have notRow : placeIn opened ≠ .row := by simp [items]
    obtain rfl : gs = [] := by
      rcases rows.eq_of_proper proper notRow with none | ⟨-, flow⟩
      · exact none
      · cases items.symm.trans flow
    exact shows_start_frame rfl visible (goals_eq_nil proper notRow) seen
  | quote | footnoteDefinition => exact shows_start_frame rfl visible (nothing rfl) (settled rfl)
  | codeBlock | htmlBlock | table =>
    change Shows _ (ms ++ []) _
    rw [List.append_nil]
    exact shows_start_sealed rfl visible (nothing rfl) (settled rfl) span
  | tableHead | tableRow | tableCell =>
    cases place : placeIn opened <;>
      simp [place, Place.takes, Tag.isBlock, Tag.isInline] at takes visible
  | link form url => cases form <;> exact shows_start_inline rfl rfl rfl visible rows seen span
  | _ => exact shows_start_inline rfl rfl rfl visible rows seen span

theorem shows_leaf {event : Event} (leaf : event.isLeaf = true) (fits : event.fits opened = true)
    (span : Span) : Shows opened (ms ++ event.marks span) (b.take event span) := by
  have bare (outside : (placeIn opened != .items) = true) :
      placeIn opened = .flow ∨ placeIn opened = .row := by
    cases h : placeIn opened <;> simp [h] at outside visible ⊢
  cases event with
  | start tag => simp [Event.isLeaf] at leaf
  | stop tag => simp [Event.isLeaf] at leaf
  | text value => exact shows_pushText rows seen (bare fits) value span
  | softBreak => exact shows_pushText rows seen (bare fits) "\n" span
  | hardBreak => exact shows_pushInline rows seen (bare fits) (.lineBreak span)
  | code value => exact shows_pushInline rows seen (bare fits) (.code value span)
  | html value => exact shows_pushInline rows seen (bare fits) (.html value span)
  | footnoteReference label =>
    exact shows_pushInline rows seen (bare fits) (.footnoteReference label span)
  | rule =>
    have flow : placeIn opened = .flow := by
      cases h : placeIn opened <;> simp [Event.fits, h] at fits visible ⊢
    refine ⟨gs, rows, ?_⟩
    refine (Builder.view_pushBlock b (.other [] span) ?_ (.inr rfl)).trans ?_
    · rw [seen]
      exact topTakesBlocks?_of_flow flow
    · rw [seen]
      rfl
  | taskMarker =>
    change Shows opened (ms ++ []) b
    rw [List.append_nil]
    exact ⟨gs, rows, seen⟩

end

theorem unwinds_stop {start : Span} (takes : (placeIn opened).takes tag = true)
    (proper : ProperlyOpen opened) (inside : placeIn ((tag, start) :: opened) ≠ .hidden)
    (rows : Rows ((tag, start) :: opened) gs) (seen : b.view = shown ((tag, start) :: opened) gs ms) :
    Unwinds opened tag gs ms (b.stop tag) := by
  have visible : placeIn opened ≠ .hidden := by
    intro hidden
    exact inside (if_pos hidden)
  rw [placeIn_cons visible] at inside
  have flow (block : tag.isBlock = true) : placeIn opened = .flow :=
    Place.eq_flow_of_takes takes block visible
  have nothing (block : tag.isBlock = true) : goals opened = [] :=
    goals_eq_nil proper (by simp [flow block])
  have around (inside : tag.isInline = true) : placeIn opened = .flow ∨ placeIn opened = .row :=
    Place.of_takes_inline takes inside visible
  have settled (notRow : tag.place ≠ .row) : b.closeImplicit.view = shown ((tag, start) :: opened) [] ms :=
    view_settled rows seen ⟨takes, proper⟩ (by rwa [placeIn_cons visible])
  have frame {frame : OpenBlock} (isFrame : tag.frame? start = some frame) (block : tag.isBlock = true)
      (notRow : tag.place ≠ .row) (notItem : (tag != .item) = true) :
      Unwinds opened tag gs ms (b.closeImplicit.closeBlock tag) := by
    refine (shows_stop_frame isFrame visible (nothing block) ?_ (settled notRow)).unwinds
      ((goal?_eq_none_iff tag).2 notRow)
    rw [notItem]
    exact topTakesBlocks?_of_flow (flow block)
  cases tag with
  | paragraph => exact unwinds_stop_row rfl rfl rfl (flow rfl) (nothing rfl) rows seen
  | heading depth => exact unwinds_stop_row rfl rfl rfl (flow rfl) (nothing rfl) rows seen
  | list => exact frame rfl rfl (by decide) rfl
  | quote | footnoteDefinition => exact frame rfl rfl (by decide) rfl
  | item =>
    have items := Place.eq_items_of_takes takes visible
    have nothing : goals opened = [] := goals_eq_nil proper (by simp [items])
    have shows : Shows opened ms (b.closeImplicit.closeBlock .item) :=
      shows_stop_frame rfl visible nothing (topTakesBlocks?_of_items items) (settled (by decide))
    exact shows.unwinds rfl
  | codeBlock | htmlBlock | table | tableHead | tableRow | tableCell => exact absurd rfl inside
  | link form url => cases form <;> exact unwinds_stop_inline rfl rfl rfl visible (around rfl) rows seen
  | _ => exact unwinds_stop_inline rfl rfl rfl visible (around rfl) rows seen

/-! ### Where content is not looked at -/

theorem exists_sealedIn (hidden : placeIn opened = .hidden) : ∃ o, sealedIn opened = some o := by
  rw [← Option.ne_none_iff_exists', Ne, sealedIn_eq_none_iff, not_not, hidden]

/-- The number of open containers changes, and nothing else. -/
theorem shows_resealed {next : OpenTags} {o : OpenSealed} (seen : b.view = shown opened [] ms)
    (proper : ProperlyOpen next) (inside : sealedIn next = some o)
    (same : frames next = frames opened) : Shows next ms { b with sealed? := some o } := by
  have hidden : placeIn next = .hidden := by
    rw [← not_ne_iff, ← sealedIn_eq_none_iff, inside]
    simp
  refine ⟨[], rows_nil (goals_eq_nil proper (by simp [hidden])), ?_⟩
  rw [view_sealed, seen, shown, shown, same, inside]

theorem shows_hidden (proper : ProperlyOpen opened) (hidden : placeIn opened = .hidden)
    (h : Shows opened ms b) (event : Event × Span) (fits : event.1.fits opened = true) :
    Shows (opened.after event) ms (b.step event) := by
  have next := proper.after fits
  obtain ⟨gs, rows, seen⟩ := h
  obtain rfl : gs = [] := by
    rcases rows.eq_of_proper proper (by simp [hidden]) with none | ⟨-, flow⟩
    · exact none
    · cases hidden.symm.trans flow
  have known : b.sealed? = sealedIn opened := congrArg View.sealed? seen
  obtain ⟨⟨outermost, depth⟩, inside⟩ := exists_sealedIn hidden
  obtain ⟨event, span⟩ := event
  cases event with
  | start tag =>
    have deeper : b.step (.start tag, span) = { b with sealed? := some ⟨outermost, depth + 1⟩ } := by
      rw [Builder.step, known, inside]
    rw [deeper]
    exact shows_resealed seen next (by simp only [OpenTags.after, sealedIn, inside]) (if_pos hidden)
  | stop tag =>
    obtain ⟨start, outer, rfl⟩ := eq_cons_of_fits_stop fits
    by_cases around : placeIn outer = .hidden
    · obtain ⟨⟨outermost, depth⟩, outside⟩ := exists_sealedIn around
      have nested : sealedIn ((tag, start) :: outer) = some ⟨outermost, depth + 1⟩ := by
        rw [sealedIn, outside]
      have closer : b.step (.stop tag, span) = { b with sealed? := some ⟨outermost, depth⟩ } := by
        rw [Builder.step, known, nested]
      rw [closer]
      exact shows_resealed seen next outside (if_pos around).symm
    · rw [placeIn_cons around] at hidden
      have flow := Place.eq_flow_of_takes_sealed proper.1 hidden around
      have closes : b.step (.stop tag, span) =
          Builder.pushBlock { b with sealed? := none } (.other [] start) := by
        rw [Builder.step, known, sealedIn_cons around, if_pos hidden]
      have nothing : goals outer = [] := goals_eq_nil proper.2 (by simp [flow])
      rw [closes]
      exact shows_stop_sealed hidden flow nothing seen
  | _ =>
    rw [Builder.step, known, inside]
    exact ⟨[], rows, seen⟩

/-! ### One step -/

/-- One step keeps the stacks those of the open containers, and adds what the event adds. -/
theorem shows_step (proper : ProperlyOpen opened) (h : Shows opened ms b) (event : Event × Span)
    (fits : event.1.fits opened = true) :
    Shows (opened.after event) (ms ++ if placeIn opened = .hidden then [] else event.1.marks event.2)
      (b.step event) := by
  by_cases hidden : placeIn opened = .hidden
  · rw [if_pos hidden, List.append_nil]
    exact shows_hidden proper hidden h event fits
  · obtain ⟨gs, rows, seen⟩ := h
    have visible : b.sealed? = none :=
      (congrArg View.sealed? seen).trans ((sealedIn_eq_none_iff opened).2 hidden)
    have taken : b.step event = b.take event.1 event.2 := by rw [Builder.step, visible]
    rw [if_neg hidden, taken]
    obtain ⟨event, span⟩ := event
    cases event with
    | start tag => exact shows_start hidden rows seen proper fits span
    | stop tag =>
      obtain ⟨start, outer, rfl⟩ := eq_cons_of_fits_stop fits
      change Shows outer (ms ++ []) (b.stop tag)
      rw [List.append_nil]
      exact (unwinds_stop proper.1 proper.2 hidden rows seen).shows
    | _ => exact shows_leaf hidden rows seen rfl fits span

end

section

variable {opened : OpenTags} {ms : List Mark} {b : Builder} {tag : Tag} {start : Span}

/-- From one builder to the other, the frame of a container has gone from the top of its stack. -/
structure Pops (tag : Tag) (start : Span) (b c : Builder) : Prop where
  block : ∀ frame, tag.frame? start = some frame →
    b.blocks.map OpenBlock.emptied = frame :: c.blocks.map OpenBlock.emptied
  inline : ∀ goal, tag.goal? = some goal →
    b.inlines.map OpenInline.goal = goal :: c.inlines.map OpenInline.goal

/-- A stop that is in sight takes the frame of its start off the stacks. -/
theorem pops_step (proper : ProperlyOpen ((tag, start) :: opened)) (visible : placeIn opened ≠ .hidden)
    (h : Shows ((tag, start) :: opened) ms b) (span : Span) :
    Pops tag start b (b.step (.stop tag, span)) := by
  by_cases hidden : tag.place = .hidden
  · constructor
    · intro frame isFrame
      cases tag <;> simp [Tag.place, Tag.frame?] at hidden isFrame
    · intro goal isGoal
      rw [(goal?_eq_none_iff tag).2 (by simp [hidden])] at isGoal
      cases isGoal
  · rw [← placeIn_cons visible start] at hidden
    obtain ⟨gs, rows, seen⟩ := h
    have inSight : b.sealed? = none :=
      (congrArg View.sealed? seen).trans ((sealedIn_eq_none_iff _).2 hidden)
    have taken : b.step (.stop tag, span) = b.stop tag := by
      rw [Builder.step, inSight]
      rfl
    obtain ⟨outer, -, left, popped⟩ := unwinds_stop proper.1 proper.2 hidden rows seen
    rw [taken]
    constructor
    · intro frame isFrame
      rw [shown_cons_frame visible isFrame] at seen
      refine (congrArg View.blocks seen).trans (congrArg (frame :: ·) ?_)
      exact (congrArg View.blocks left).symm
    · intro goal isGoal
      refine (congrArg View.goals seen).trans ((popped goal isGoal).trans (congrArg (goal :: ·) ?_))
      exact (congrArg View.goals left).symm

end

/-! ## What a run does -/

theorem ProperlyOpen.run (es : Events) {opened : OpenTags} (proper : ProperlyOpen opened)
    (placed : WellPlaced opened es) : ProperlyOpen (es.foldl OpenTags.after opened) := by
  induction es generalizing opened with
  | nil => exact proper
  | cons e es ih => exact ih (proper.after placed.1) placed.2

theorem shows_run (es : Events) {opened : OpenTags} {ms : List Mark} {b : Builder}
    (proper : ProperlyOpen opened) (h : Shows opened ms b) (placed : WellPlaced opened es) :
    Shows (es.foldl OpenTags.after opened) (ms ++ (inSight opened es).flatMap fun e => e.1.marks e.2)
      (b.run es) := by
  induction es generalizing opened ms b with
  | nil =>
    rw [inSight, List.flatMap_nil, List.append_nil]
    exact h
  | cons e es ih =>
    have next := ih (proper.after placed.1) (shows_step proper h e placed.1) placed.2
    rw [Builder.run_cons, List.foldl_cons, inSight]
    split
    next hidden => rwa [if_pos hidden, List.append_nil] at next
    next visible => rwa [if_neg visible, List.append_assoc] at next

theorem properlyOpen_nil : ProperlyOpen [] := trivial

theorem shows_empty : Shows [] [] {} := ⟨[], rows_nil rfl, rfl⟩

/-- When nothing is open, the document holds what the builder holds. -/
theorem marks_finish {ms : List Mark} {b : Builder} (h : Shows [] ms b) :
    Block.marksAll b.finish.blocks = ms := by
  obtain ⟨gs, rows, seen⟩ := h
  have closed : b.finish = ⟨Builder.rootBlocks b.closeImplicit.blocks⟩ := by
    have goals : b.inlines.map OpenInline.goal = gs := congrArg View.goals seen
    rcases rows.eq_of_proper trivial (by simp [placeIn]) with rfl | ⟨rfl, -⟩
    · rw [List.map_eq_nil_iff] at goals
      rw [Builder.finish, Builder.closeImplicit, goals]
      rfl
    · obtain ⟨⟨goal, children, span⟩, one, isImplicit⟩ := List.map_eq_singleton_iff.1 goals
      obtain rfl : goal = .paragraph true := isImplicit
      rw [Builder.finish, Builder.closeImplicit, one]
      rfl
  have settled : b.closeImplicit.view = shown [] [] ms :=
    view_settled rows seen trivial (by simp [placeIn])
  rw [closed]
  generalize b.closeImplicit = c at settled ⊢
  rcases c with ⟨blocks, inlines, hidden, dropped⟩
  have one : blocks.map OpenBlock.emptied = [.root []] := congrArg View.blocks settled
  obtain rfl : inlines = [] := List.map_eq_nil_iff.1 (congrArg View.goals settled)
  have marks : blocks.reverse.flatMap OpenBlock.marks ++ [] = ms := congrArg View.marks settled
  obtain ⟨frame, rfl, isRoot⟩ := List.map_eq_singleton_iff.1 one
  cases frame <;> simp only [OpenBlock.emptied, reduceCtorEq] at isRoot
  simpa [OpenBlock.marks, Builder.rootBlocks] using marks

/-- On a well placed stream the stacks of the builder are those of the open containers, after every
prefix of it, and each stop takes the frame of its start off them. At the end the document holds every
heading, list and item that was started and every character that was read, once and in their order. -/
theorem stacks_mirror_open_tags (es : Events) (placed : WellPlaced [] es) :
    (∀ before after, es = before ++ after → Mirrors (openAfter before) (Builder.run {} before)) ∧
    (∀ before tag span after, es = before ++ (.stop tag, span) :: after → ∃ start outer,
      openAfter before = (tag, start) :: outer ∧
      (placeIn outer ≠ .hidden →
        Pops tag start (Builder.run {} before) (Builder.run {} (before ++ [(.stop tag, span)])))) ∧
    (openAfter es = [] → Block.marksAll (Document.ofEvents es).blocks =
      (inSight [] es).flatMap fun e => e.1.marks e.2) := by
  have prefixes (before after : Events) (whole : es = before ++ after) :
      WellPlaced [] before ∧ WellPlaced (openAfter before) after := by
    rwa [whole, wellPlaced_append] at placed
  refine ⟨fun before after whole => ?_, fun before tag span after whole => ?_, fun closed => ?_⟩
  · exact (shows_run before properlyOpen_nil shows_empty (prefixes before after whole).1).mirrors
  · obtain ⟨placed, fits, -⟩ := prefixes before _ whole
    obtain ⟨start, outer, opened⟩ := eq_cons_of_fits_stop fits
    refine ⟨start, outer, opened, fun visible => ?_⟩
    have shows := shows_run before properlyOpen_nil shows_empty placed
    have proper := ProperlyOpen.run before properlyOpen_nil placed
    rw [← openAfter, opened] at shows proper
    rw [Builder.run_append]
    exact pops_step proper visible shows span
  · have shows := shows_run es properlyOpen_nil shows_empty placed
    rw [← openAfter, closed] at shows
    exact marks_finish shows

/-- A tight item with emphasis and a nested list in it. -/
theorem stacks_mirror_open_tags_nested :
    let es : Events :=
      [(.start .list, ⟨0, 14⟩), (.start .item, ⟨0, 14⟩), (.text "a ", ⟨2, 4⟩),
        (.start .emphasis, ⟨4, 7⟩), (.text "b", ⟨5, 6⟩), (.stop .emphasis, ⟨4, 7⟩),
        (.start .list, ⟨10, 14⟩), (.start .item, ⟨10, 14⟩), (.code "c", ⟨12, 14⟩),
        (.stop .item, ⟨10, 14⟩), (.stop .list, ⟨10, 14⟩), (.stop .item, ⟨0, 14⟩), (.stop .list, ⟨0, 14⟩)]
    WellPlaced [] es ∧ openAfter es = [] ∧ Block.marksAll (Document.ofEvents es).blocks =
      [.list ⟨0, 14⟩, .item ⟨0, 14⟩, .char 'a', .char ' ', .char 'b', .list ⟨10, 14⟩, .item ⟨10, 14⟩,
        .char 'c'] := by
  intro es
  have placed : WellPlaced [] es := by
    simp only [es, WellPlaced]
    decide
  have closed : openAfter es = [] := rfl
  exact ⟨placed, closed, (stacks_mirror_open_tags es placed).2.2 closed⟩

end Markdown
end CuratedList
