import CuratedList.Check
import CuratedList.Proofs.Entry.Sites
import CuratedList.Proofs.Lint.Reports
import CuratedList.Proofs.Markdown.Order
import CuratedList.Proofs.Markdown.Starts

/-! # The order of reports

All entries of a list are checked before the entries inside them. So an entry inside an item is reported
after every later item of the same list, although it starts before them. `NoneOvertaken` says that this
never happens to two rejected entries. In a document in order, it is exactly what makes the reports
come in the order of their places (`rejected_pairwise_iff`), whether the place of a report is the start
of its span or the start of its entry.
-/

namespace CuratedList
set_option autoImplicit false

namespace Linter

/-! ## Rejected entries -/

/-- A rejected entry with its violation. -/
abbrev Rejection := Item × Violation

/-- The rejection of an entry, if it is rejected. -/
def rejection? (linter : Linter) (i : Item) : Option Rejection := (linter.violation? i).map (i, ·)

/-- The rejected entries among items, in order. -/
def rejectedOf (linter : Linter) (items : List Item) : List Rejection :=
  items.filterMap linter.rejection?

/-- The rejected entries of a document, in the order in which they are reported. -/
def rejected (linter : Linter) (doc : Document) : List Rejection :=
  (selectLists doc linter.respectContents).flatMap fun list => linter.rejectedOf list.1

theorem rejection?_eq_some_iff {linter : Linter} {i : Item} {r : Rejection} :
    linter.rejection? i = some r ↔ r.1 = i ∧ linter.violation? i = some r.2 := by
  obtain ⟨item, v⟩ := r
  simp only [rejection?, Option.map_eq_some_iff, Prod.mk.injEq, exists_eq_right_right]
  exact and_comm.trans (and_congr_left' eq_comm)

theorem map_rejected (linter : Linter) (doc : Document) :
    (linter.rejected doc).map Prod.snd = linter.violations doc := by
  have snd (i : Item) : (linter.rejection? i).map Prod.snd = linter.violation? i := by
    rw [rejection?, Option.map_map]
    exact Option.map_id'
  simp only [rejected, violations, List.map_flatMap, rejectedOf, violationsOf, List.map_filterMap,
    snd]

/-! ## Places -/

/-- Rejected entries are given places: in their span, and not after the entries inside them. -/
structure Places (linter : Linter) (place : Rejection → Nat) : Prop where
  inside : ∀ r : Rejection, r.1.InOrder → linter.violation? r.1 = some r.2 →
    r.1.span.start ≤ place r ∧ place r ≤ r.1.span.stop
  before : ∀ r : Rejection, r.1.InOrder → linter.violation? r.1 = some r.2 →
    ∀ e ∈ r.1.inner, place r ≤ e.span.start

/-- Reports are placed where their spans start. -/
theorem places_span (linter : Linter) : linter.Places fun r => r.2.span.start := by
  have site {r : Rejection} (rejected : linter.violation? r.1 = some r.2) :
      r.2.span ∈ r.1.sites :=
    validateEntry_rejectsAt _ _ _ ((violation?_eq_some_iff ..).1 rejected)
  constructor
  · intro r inOrder rejected
    obtain ⟨within, le⟩ := inOrder.site (site rejected)
    exact ⟨within.1, le.trans within.2⟩
  · intro r inOrder rejected e inside
    exact inOrder.site_start_le (site rejected) inside

/-- Reports are placed where their entries start. -/
theorem places_entry (linter : Linter) : linter.Places fun r => r.1.span.start := by
  constructor
  · intro r inOrder _
    exact ⟨Nat.le_refl _, inOrder.start_le_stop⟩
  · intro r inOrder _ e inside
    exact (Item.InOrder.entry r.1 inOrder inside).1.1

/-- If an item is rejected, it is not placed after the rejected entries inside `j`. -/
def BeforeInner (linter : Linter) (place : Rejection → Nat) (i j : Item) : Prop :=
  ∀ r ∈ linter.rejection? i, ∀ s ∈ linter.rejectedOf j.inner, place r ≤ place s

/-- In a list, no rejected item is placed after a rejected entry inside an earlier item. -/
def NoneOvertakenIn (linter : Linter) (place : Rejection → Nat) (items : List Item) : Prop :=
  items.Pairwise fun i j => linter.BeforeInner place j i

/-- In no checked list, a rejected item is placed after a rejected entry inside an earlier item. -/
def NoneOvertaken (linter : Linter) (place : Rejection → Nat) (doc : Document) : Prop :=
  ∀ list ∈ selectLists doc linter.respectContents, linter.NoneOvertakenIn place list.1

/-! ## Pairs of rejected entries -/

theorem mem_rejectedOf {linter : Linter} {items : List Item} {r : Rejection} :
    r ∈ linter.rejectedOf items ↔ r.1 ∈ items ∧ linter.violation? r.1 = some r.2 := by
  simp only [rejectedOf, List.mem_filterMap, rejection?_eq_some_iff]
  constructor
  · rintro ⟨i, member, rfl, rejected⟩
    exact ⟨member, rejected⟩
  · rintro ⟨member, rejected⟩
    exact ⟨r.1, member, rfl, rejected⟩

section

variable {linter : Linter} {place : Rejection → Nat} (places : linter.Places place)
include places

/-- Entries in two spans that follow one another. -/
theorem Places.le_of_apart {r s : Rejection} {x y : Span} (apart : x.stop ≤ y.start)
    (first : r.1.span.Within x ∧ r.1.InOrder) (second : s.1.span.Within y ∧ s.1.InOrder)
    (hr : linter.violation? r.1 = some r.2) (hs : linter.violation? s.1 = some s.2) :
    place r ≤ place s :=
  calc place r ≤ r.1.span.stop := (places.inside r first.2 hr).2
    _ ≤ x.stop := first.1.2
    _ ≤ y.start := apart
    _ ≤ s.1.span.start := second.1.1
    _ ≤ place s := (places.inside s second.2 hs).1

/-- An entry and one inside it. -/
theorem Places.le_of_inner {r s : Rejection} (outer : r.1.InOrder) (inside : s.1 ∈ r.1.inner)
    (hr : linter.violation? r.1 = some r.2) (hs : linter.violation? s.1 = some s.2) :
    place r ≤ place s :=
  (places.before r outer hr s.1 inside).trans
    (places.inside s (Item.InOrder.entry r.1 outer inside).2 hs).1

/-! ## The items of a list -/

theorem rejectedOf_pairwise {span : Span} {items : List Item} (h : Item.AllInOrder span items) :
    (linter.rejectedOf items).Pairwise fun r s => place r ≤ place s := by
  obtain ⟨inOrder, apart⟩ := (Item.allInOrder_iff ..).1 h
  rw [rejectedOf, List.pairwise_filterMap]
  refine apart.imp_of_mem fun {i j} hi hj apart r hr s hs => ?_
  obtain ⟨rfl, hr⟩ := rejection?_eq_some_iff.1 hr
  obtain ⟨rfl, hs⟩ := rejection?_eq_some_iff.1 hs
  exact places.le_of_apart apart ⟨.refl _, (inOrder _ hi).2⟩ ⟨.refl _, (inOrder _ hj).2⟩ hr hs

theorem beforeInner_self {i : Item} (inOrder : i.InOrder) : linter.BeforeInner place i i := by
  intro r hr s hs
  obtain ⟨rfl, hr⟩ := rejection?_eq_some_iff.1 hr
  obtain ⟨inside, hs⟩ := mem_rejectedOf.1 hs
  exact places.le_of_inner inOrder inside hr hs

theorem beforeInner_of_apart {i j : Item} (hi : i.InOrder) (hj : j.InOrder)
    (apart : i.span.stop ≤ j.span.start) : linter.BeforeInner place i j := by
  intro r hr s hs
  obtain ⟨rfl, hr⟩ := rejection?_eq_some_iff.1 hr
  obtain ⟨inside, hs⟩ := mem_rejectedOf.1 hs
  exact places.le_of_apart apart ⟨.refl _, hi⟩ (Item.InOrder.entry j hj inside) hr hs

/-- If none is overtaken, then the rejected items of a list are placed before all rejected entries
inside its items. -/
theorem beforeInner_of_noneOvertakenIn {span : Span} {items : List Item}
    (h : Item.AllInOrder span items) (none : linter.NoneOvertakenIn place items) {i j : Item}
    (hi : i ∈ items) (hj : j ∈ items) : linter.BeforeInner place i j := by
  obtain ⟨inOrder, apart⟩ := (Item.allInOrder_iff ..).1 h
  have same : ∀ i ∈ items, linter.BeforeInner place i i :=
    fun i hi => beforeInner_self places (inOrder i hi).2
  have later : items.Pairwise (linter.BeforeInner place) :=
    apart.imp_of_mem fun {i j} hi hj apart =>
      beforeInner_of_apart places (inOrder i hi).2 (inOrder j hj).2 apart
  exact later.forall_of_forall_of_flip same none hi hj

/-! ## The lists of a document

The induction is on the blocks. Lists in different siblings lie apart; a list and one inside its items
are in step unless an item is overtaken. -/

omit places in
/-- If none in `l` is overtaken, then the rejected items of `l` are placed before those of `m`. -/
def InStep (linter : Linter) (place : Rejection → Nat) (l m : List Item × Span) : Prop :=
  linter.NoneOvertakenIn place l.1 →
    ∀ r ∈ linter.rejectedOf l.1, ∀ s ∈ linter.rejectedOf m.1, place r ≤ place s

theorem Places.inStep_of_inner {span : Span} {items : List Item}
    (h : Item.AllInOrder span items) {m : List Item × Span}
    (hm : m ∈ Landmark.lists (Landmark.ofItems items)) : linter.InStep place (items, span) m := by
  intro none r hr s hs
  obtain ⟨hi, rejectedR⟩ := mem_rejectedOf.1 hr
  obtain ⟨member, rejectedS⟩ := mem_rejectedOf.1 hs
  obtain ⟨j, hj, inside⟩ :=
    Landmark.mem_items_ofItems.1 (Landmark.mem_items.2 ⟨m, hm, member⟩)
  exact beforeInner_of_noneOvertakenIn places h none hi hj r
    (rejection?_eq_some_iff.2 ⟨rfl, rejectedR⟩) s (mem_rejectedOf.2 ⟨inside, rejectedS⟩)

theorem Places.inStep_of_apart {x : Span} {l m : List Item × Span}
    (hl : ∀ e ∈ l.1, e.span.Within x ∧ e.InOrder)
    (hm : ∀ e ∈ m.1, ∃ y : Span, x.stop ≤ y.start ∧ e.span.Within y ∧ e.InOrder) :
    linter.InStep place l m := by
  intro _ r hr s hs
  obtain ⟨rl, rejectedR⟩ := mem_rejectedOf.1 hr
  obtain ⟨sm, rejectedS⟩ := mem_rejectedOf.1 hs
  obtain ⟨y, apart, within⟩ := hm s.1 sm
  exact places.le_of_apart apart (hl r.1 rl) within rejectedR rejectedS

mutual

theorem Places.lists_of_block : (b : Block) → b.InOrder →
    (Landmark.lists (Landmark.ofBlock b)).Pairwise (linter.InStep place)
  | .heading .., _ => .nil
  | .paragraph .., _ => .nil
  | .list items s, h => by
    rw [Landmark.ofBlock, Landmark.lists_list, List.pairwise_cons]
    exact ⟨fun m hm => places.inStep_of_inner h.2 hm, Places.lists_of_items items h.2⟩
  | .other children _, h => Places.lists_of_blocks children h.2

theorem Places.lists_of_blocks {s : Span} : (bs : List Block) → Block.AllInOrder s bs →
    (Landmark.lists (Landmark.ofBlocks bs)).Pairwise (linter.InStep place)
  | [], _ => .nil
  | b :: bs, h => by
    rw [Landmark.ofBlocks, Landmark.lists_append, List.pairwise_append]
    refine ⟨Places.lists_of_block b h.1.2, Places.lists_of_blocks bs h.2.2, fun l hl m hm => ?_⟩
    refine places.inStep_of_apart (x := b.span) (fun e he => ?_) (fun e he => ?_)
    · have inside : e ∈ b.entries :=
        (Landmark.perm_entries_of_block b).mem_iff.1 (Landmark.mem_items.2 ⟨l, hl, he⟩)
      exact Block.InOrder.entry b h.1.2 inside
    · have later : e ∈ Block.entriesAll bs :=
        (Landmark.perm_entries_of_blocks bs).mem_iff.1 (Landmark.mem_items.2 ⟨m, hm, he⟩)
      obtain ⟨c, hc, inside⟩ := Block.mem_entriesAll.1 later
      refine ⟨c.span, (h.2.1 c hc).stop_le_start (Block.isLeaf_of_mem_entries inside), ?_⟩
      exact Block.InOrder.entry c (((Block.allInOrder_iff ..).1 h.2.2).1 c hc).2 inside

theorem Places.lists_of_items {s : Span} : (is : List Item) → Item.AllInOrder s is →
    (Landmark.lists (Landmark.ofItems is)).Pairwise (linter.InStep place)
  | [], _ => .nil
  | .mk children span :: is, h => by
    rw [Landmark.ofItems, Landmark.lists_append, List.pairwise_append]
    refine ⟨Places.lists_of_blocks children h.1.2.2, Places.lists_of_items is h.2.2,
      fun l hl m hm => ?_⟩
    refine places.inStep_of_apart (x := span) (fun e he => ?_) (fun e he => ?_)
    · have inside : e ∈ (Item.mk children span).inner :=
        Landmark.mem_items_ofItem.1 (Landmark.mem_items.2 ⟨l, hl, he⟩)
      exact Item.InOrder.entry _ h.1.2 inside
    · obtain ⟨j, hj, inside⟩ :=
        Landmark.mem_items_ofItems.1 (Landmark.mem_items.2 ⟨m, hm, he⟩)
      refine ⟨j.span, h.2.1 j hj, ?_⟩
      exact Item.InOrder.entry j (((Item.allInOrder_iff ..).1 h.2.2).1 j hj).2 inside

end

/-! ## The order of a whole run -/

/-- In a document in order, reports come in the order of their places exactly if none is overtaken. -/
theorem Places.rejected_pairwise_iff {doc : Document} (ordered : doc.InOrder) :
    (linter.rejected doc).Pairwise (fun r s => place r ≤ place s) ↔
      linter.NoneOvertaken place doc := by
  obtain ⟨span, ordered⟩ := ordered
  have suffix := suffix_selectLists doc linter.respectContents
  rw [selectLists_false] at suffix
  have inOrder := Landmark.inOrder_of_blocks doc.blocks ordered
  rw [rejected, List.pairwise_flatMap]
  constructor
  · rintro ⟨-, crossed⟩ list member
    -- every entry inside an item is in a list that comes later
    obtain ⟨front, back, split⟩ := List.append_of_mem member
    have later : Landmark.InnerLater (list :: back) :=
      (Landmark.innerLater_of_blocks doc.blocks).of_suffix
        (.trans ⟨front, split.symm⟩ suffix)
    rw [split, List.pairwise_append, List.pairwise_cons] at crossed
    obtain ⟨-, ⟨crossed, -⟩, -⟩ := crossed
    refine List.pairwise_of_forall_mem_list fun i hi j hj r hr s hs => ?_
    obtain ⟨rfl, rejectedR⟩ := rejection?_eq_some_iff.1 hr
    obtain ⟨inside, rejectedS⟩ := mem_rejectedOf.1 hs
    obtain ⟨m, hm, here⟩ := later.1 i hi s.1 inside
    exact crossed m hm r (mem_rejectedOf.2 ⟨hj, rejectedR⟩) s (mem_rejectedOf.2 ⟨here, rejectedS⟩)
  · intro none
    refine ⟨fun list member => ?_, ?_⟩
    · obtain ⟨span, ordered⟩ := inOrder list (suffix.subset member)
      exact rejectedOf_pairwise places ordered
    · exact ((places.lists_of_blocks doc.blocks ordered).sublist suffix.sublist).imp_of_mem
        fun {l m} hl _ inStep => inStep (none l hl)

end

/-! ## Sorted reports -/

/-- The spans of reports start in order. -/
def SpansSorted (ds : List Diagnostic) : Prop := ds.Pairwise fun d e => d.span.start ≤ e.span.start

/-- The lines and columns of reports are in order. -/
def PositionsSorted (ds : List Diagnostic) : Prop :=
  ds.Pairwise fun d e => d.position.key ≤ e.position.key

theorem lintDocument_eq_map_rejected (linter : Linter) (source : List Char) (doc : Document) :
    linter.lintDocument source doc =
      (linter.rejected doc).map fun r => .ofViolation source r.2 := by
  rw [lintDocument_eq, ← map_rejected, List.map_map]
  rfl

theorem spansSorted_iff {doc : Document} (linter : Linter) (source : List Char)
    (ordered : doc.InOrder) :
    SpansSorted (linter.lintDocument source doc) ↔
      linter.NoneOvertaken (fun r => r.2.span.start) doc := by
  rw [← linter.places_span.rejected_pairwise_iff ordered, SpansSorted,
    lintDocument_eq_map_rejected, List.pairwise_map]
  rfl

/-- Reports on a source are placed at boundaries of characters. -/
theorem isBoundary_of_mem_lintText {linter : Linter} {source : String} {d : Diagnostic}
    (member : d ∈ linter.lintText source) :
    Text.IsBoundary source.toList d.span.start ∧
      d.position = .ofOffset source.toList d.span.start := by
  rw [lintText, lintDocument_eq_map_rejected] at member
  obtain ⟨r, reported, rfl⟩ := List.mem_map.1 member
  obtain ⟨list, selected, rejected⟩ := List.mem_flatMap.1 reported
  obtain ⟨item, violation⟩ := mem_rejectedOf.1 rejected
  have listed := (suffix_selectLists _ _).subset selected
  rw [selectLists_false] at listed
  have entry : r.1 ∈ (Document.ofMarkdown source).entries :=
    (Landmark.perm_entries_of_landmarks _).mem_iff.1 (Landmark.mem_items.2 ⟨list, listed, item⟩)
  have starts := Block.AllStartIn.entry _ (Markdown.startsIn_ofMarkdown source) entry
  have site := validateEntry_rejectsAt _ _ _ ((violation?_eq_some_iff ..).1 violation)
  exact ⟨starts.site site, rfl⟩

theorem positionsSorted_iff (linter : Linter) (source : String) :
    PositionsSorted (linter.lintText source) ↔ SpansSorted (linter.lintText source) := by
  refine List.Pairwise.iff_of_mem fun {d e} hd he => ?_
  obtain ⟨dBoundary, dPosition⟩ := isBoundary_of_mem_lintText hd
  obtain ⟨eBoundary, ePosition⟩ := isBoundary_of_mem_lintText he
  rw [dPosition, ePosition]
  exact (Text.Position.ofOffset_strictMonoOn source.toList).le_iff_le dBoundary eBoundary

/-- In a document in order, the reports of a check are sorted exactly if none is overtaken: their spans
by where the spans start, and the rejected entries by where the entries start. If the events of a source
are ordered and nested, its document is in order. The positions of reports on a source are sorted
exactly if their spans are. -/
theorem sorted_iff_noneOvertaken (linter : Linter) :
    (∀ (source : List Char) (doc : Document), doc.InOrder →
      (SpansSorted (linter.lintDocument source doc) ↔
        linter.NoneOvertaken (fun r => r.2.span.start) doc) ∧
      (linter.lintDocument source doc =
        (linter.rejected doc).map fun r => .ofViolation source r.2) ∧
      (((linter.rejected doc).Pairwise fun r s => r.1.span.start ≤ s.1.span.start) ↔
        linter.NoneOvertaken (fun r => r.1.span.start) doc)) ∧
    ∀ source : String,
      (∀ (span : Span) (forest : List Markdown.FlowTree),
        Markdown.events source = Markdown.FlowTree.eventsAll forest →
        Markdown.FlowTree.AllInOrder span forest →
        (SpansSorted (linter.lintText source) ↔
          linter.NoneOvertaken (fun r => r.2.span.start) (.ofMarkdown source))) ∧
      (PositionsSorted (linter.lintText source) ↔ SpansSorted (linter.lintText source)) := by
  refine ⟨fun source doc ordered => ⟨?_, ?_, ?_⟩, fun source => ⟨?_, ?_⟩⟩
  · exact linter.spansSorted_iff source ordered
  · exact linter.lintDocument_eq_map_rejected source doc
  · exact linter.places_entry.rejected_pairwise_iff ordered
  · intro span forest flattened ordered
    have inOrder : (Document.ofMarkdown source).InOrder := by
      rw [Document.ofMarkdown, flattened]
      exact Markdown.inOrder_ofEvents ordered
    exact linter.spansSorted_iff source.toList inOrder
  · exact linter.positionsSorted_iff source

/-- Two items, the first of which holds a list. -/
def nestedForest : List Markdown.FlowTree :=
  [.list
    [.mk
      [.inline (.nest (.link .direct "x") [.leaf (.text "A") ⟨3, 4⟩] ⟨2, 8⟩),
        .list [.mk [.inline (.nest (.link .direct "x") [.leaf (.text "B") ⟨14, 15⟩] ⟨13, 19⟩)]
          ⟨11, 20⟩] ⟨11, 20⟩] ⟨0, 20⟩,
      .mk [.inline (.nest (.link .direct "x") [.leaf (.text "C") ⟨23, 24⟩] ⟨22, 28⟩)] ⟨20, 29⟩]
    ⟨0, 29⟩]

theorem sorted_iff_noneOvertaken_nested :
    (Document.ofEvents (Markdown.FlowTree.eventsAll nestedForest)).InOrder ∧
    Markdown.events "- [A](x)\n  - [B](x)\n- [C](x)\n" =
      Markdown.FlowTree.eventsAll nestedForest ∧
    Markdown.FlowTree.AllInOrder ⟨0, 29⟩ nestedForest ∧
    ∀ linter : Linter,
      (SpansSorted (linter.lintDocument []
          (.ofEvents (Markdown.FlowTree.eventsAll nestedForest))) ↔
        linter.NoneOvertaken (fun r => r.2.span.start)
          (.ofEvents (Markdown.FlowTree.eventsAll nestedForest))) ∧
      (SpansSorted (linter.lintText "- [A](x)\n  - [B](x)\n- [C](x)\n") ↔
        linter.NoneOvertaken (fun r => r.2.span.start)
          (.ofMarkdown "- [A](x)\n  - [B](x)\n- [C](x)\n")) := by
  have flattened : Markdown.events "- [A](x)\n  - [B](x)\n- [C](x)\n" =
      Markdown.FlowTree.eventsAll nestedForest := by decide +kernel
  have ordered : Markdown.FlowTree.AllInOrder ⟨0, 29⟩ nestedForest := by
    simp [nestedForest, Markdown.FlowTree.AllInOrder, Markdown.FlowTree.InOrder,
      Markdown.ItemTree.AllInOrder, Markdown.ItemTree.InOrder, Markdown.InlineTree.AllInOrder,
      Markdown.InlineTree.InOrder, Markdown.FlowTree.span, Markdown.ItemTree.span,
      Markdown.InlineTree.span, Span.Within]
  have inOrder := Markdown.inOrder_ofEvents ordered
  refine ⟨inOrder, flattened, ordered, fun linter => ?_⟩
  obtain ⟨documents, sources⟩ := sorted_iff_noneOvertaken linter
  exact ⟨(documents [] _ inOrder).1, (sources _).1 _ _ flattened ordered⟩

/-- Reports are not sorted in general: the entry inside the first item comes after the second item. -/
theorem inner_entry_is_reported_late :
    ¬ ∀ (linter : Linter) (source : String), SpansSorted (linter.lintText source) := by
  intro sorted
  have starts : ((Linter.mk (.standard .empty) true).lintText
      "- [A](x)\n  - [B](x)\n- [C](x)\n").map (fun d => d.span.start) = [2, 22, 13] := by
    decide +kernel
  have sorted := List.pairwise_map.2 (sorted (Linter.mk (.standard .empty) true)
    "- [A](x)\n  - [B](x)\n- [C](x)\n")
  rw [starts] at sorted
  revert sorted
  decide

end Linter
end CuratedList
