import CuratedList.Proofs.Document.Entries
import CuratedList.Proofs.Text.Comments
import Mathlib.Data.List.TakeWhile

/-! # The lists after the table of contents

The blocks of a document in pre-order hold its headings and its lists in the order in which they start.
The checked lists are those among the blocks after the table of contents: after the next heading of the
depth of the first heading `Contents`, or all of them if there is no such heading
(`selectLists_scope`). Where these headings stand does not matter, so the table may end inside a list
that belongs to it.
-/

namespace CuratedList
set_option autoImplicit false

/-! ## Pre-order -/

mutual

/-- A block, then the blocks inside it. -/
def Block.preorder : Block → List Block
  | .heading depth children span => [.heading depth children span]
  | .paragraph children span => [.paragraph children span]
  | .list items span => .list items span :: Item.preorderAll items
  | .other children span => .other children span :: Block.preorderAll children

/-- Consecutive blocks, each before the blocks inside it. -/
def Block.preorderAll : List Block → List Block
  | [] => []
  | b :: bs => b.preorder ++ Block.preorderAll bs

/-- The blocks inside an item. -/
def Item.preorder : Item → List Block
  | .mk children _ => Block.preorderAll children

/-- The blocks inside consecutive items. -/
def Item.preorderAll : List Item → List Block
  | [] => []
  | i :: is => i.preorder ++ Item.preorderAll is

end

/-- The blocks of a document, each before the blocks inside it. -/
def Document.preorder (doc : Document) : List Block := Block.preorderAll doc.blocks

/-- The items and the span of a list. -/
def Block.asList : Block → Option (List Item × Span)
  | .list items span => some (items, span)
  | .heading .. | .paragraph .. | .other .. => none

/-- The lists among blocks. -/
def Block.lists (bs : List Block) : List (List Item × Span) := bs.filterMap Block.asList

namespace Landmark

/-- A heading or list as a landmark. -/
def ofSelf : Block → Option Landmark
  | .heading depth children _ =>
    some (heading depth (Text.trim (dropComments (Inline.plainTextAll children).toList)))
  | .list items span => some (list items span)
  | .paragraph .. | .other .. => none

mutual

theorem ofBlock_eq_filterMap : (b : Block) → ofBlock b = b.preorder.filterMap ofSelf
  | .heading .. => rfl
  | .paragraph .. => rfl
  | .list items span => by
    rw [ofBlock, Block.preorder, ofItems_eq_filterMap items]
    rfl
  | .other children span => by
    rw [ofBlock, Block.preorder, ofBlocks_eq_filterMap children]
    rfl

theorem ofBlocks_eq_filterMap :
    (bs : List Block) → ofBlocks bs = (Block.preorderAll bs).filterMap ofSelf
  | [] => rfl
  | b :: bs => by
    rw [ofBlocks, Block.preorderAll, List.filterMap_append, ofBlock_eq_filterMap b,
      ofBlocks_eq_filterMap bs]

theorem ofItem_eq_filterMap : (i : Item) → ofItem i = i.preorder.filterMap ofSelf
  | .mk children _ => by
    rw [ofItem, Item.preorder, ofBlocks_eq_filterMap children]

theorem ofItems_eq_filterMap :
    (is : List Item) → ofItems is = (Item.preorderAll is).filterMap ofSelf
  | [] => rfl
  | i :: is => by
    rw [ofItems, Item.preorderAll, List.filterMap_append, ofItem_eq_filterMap i,
      ofItems_eq_filterMap is]

end

theorem lists_filterMap_ofSelf (bs : List Block) : lists (bs.filterMap ofSelf) = Block.lists bs := by
  rw [lists, Block.lists, List.filterMap_filterMap]
  congr 1
  funext b
  cases b <;> rfl

end Landmark

/-! ## The table of contents -/

/-- A heading of this depth. -/
def Block.IsHeading (depth : Nat) (b : Block) : Prop :=
  ∃ children span, b = .heading depth children span

/-- A heading of this depth that reads `Contents`, comments and white space around it apart. -/
def Block.IsContents (depth : Nat) (b : Block) : Prop :=
  ∃ children span text, b = .heading depth children span ∧
    Uncommented (Inline.plainTextAll children).toList text ∧ Text.trim text = "Contents".toList

/-- `rest` is what follows the table of contents in `bs`. -/
inductive AfterContents : (bs rest : List Block) → Prop
  /-- There is no table, and all blocks count. -/
  | absent {bs : List Block} (none : ∀ b ∈ bs, ∀ depth, ¬ b.IsContents depth) : AfterContents bs bs
  /-- The table extends to the end. -/
  | unclosed {before after : List Block} {contents : Block} {depth : Nat}
      (first : ∀ b ∈ before, ∀ d, ¬ b.IsContents d) (isContents : contents.IsContents depth)
      (none : ∀ b ∈ after, ¬ b.IsHeading depth) :
      AfterContents (before ++ contents :: after) []
  /-- The next heading of the same depth closes the table. -/
  | closed {before between after : List Block} {contents closing : Block} {depth : Nat}
      (first : ∀ b ∈ before, ∀ d, ¬ b.IsContents d) (isContents : contents.IsContents depth)
      (next : ∀ b ∈ between, ¬ b.IsHeading depth) (isClosing : closing.IsHeading depth) :
      AfterContents (before ++ contents :: (between ++ closing :: after)) after

/-- A list has a first element with a property, or none has it. -/
theorem forall_not_or_exists_first {α : Type} (p : α → Prop) (as : List α) :
    (∀ a ∈ as, ¬ p a) ∨ ∃ before a after, as = before ++ a :: after ∧ (∀ b ∈ before, ¬ p b) ∧ p a := by
  induction as with
  | nil => exact .inl fun a member => absurd member List.not_mem_nil
  | cons a as ih =>
    by_cases here : p a
    · exact .inr ⟨[], a, as, rfl, fun b member => absurd member List.not_mem_nil, here⟩
    · rcases ih with none | ⟨before, b, after, rfl, none, there⟩
      · exact .inl (List.forall_mem_cons.2 ⟨here, none⟩)
      · exact .inr ⟨a :: before, b, after, rfl, List.forall_mem_cons.2 ⟨here, none⟩, there⟩

theorem AfterContents.exists (bs : List Block) : ∃ rest, AfterContents bs rest := by
  rcases forall_not_or_exists_first (fun b : Block => ∃ depth, b.IsContents depth) bs with
    none | ⟨before, contents, after, rfl, first, depth, isContents⟩
  · exact ⟨bs, .absent fun b member depth isContents => none b member ⟨depth, isContents⟩⟩
  · have first : ∀ b ∈ before, ∀ d, ¬ b.IsContents d :=
      fun b member d isContents => first b member ⟨d, isContents⟩
    rcases forall_not_or_exists_first (Block.IsHeading depth) after with
      none | ⟨between, closing, after, rfl, next, isClosing⟩
    · exact ⟨[], .unclosed first isContents none⟩
    · exact ⟨after, .closed first isContents next isClosing⟩

/-! ## Headings among the landmarks -/

theorem Block.IsHeading.exists_ofSelf {b : Block} {depth : Nat} (h : b.IsHeading depth) :
    ∃ l, Landmark.ofSelf b = some l := by
  obtain ⟨_, _, rfl⟩ := h
  exact ⟨_, rfl⟩

theorem Block.IsContents.exists_ofSelf {b : Block} {depth : Nat} (h : b.IsContents depth) :
    ∃ l, Landmark.ofSelf b = some l := by
  obtain ⟨_, _, _, rfl, -⟩ := h
  exact ⟨_, rfl⟩

namespace Landmark

theorem contentsDepth?_eq_some_iff {b : Block} {l : Landmark} (self : ofSelf b = some l)
    (depth : Nat) : l.contentsDepth? = some depth ↔ b.IsContents depth := by
  cases b with
  | heading d children span =>
    obtain rfl := Option.some.inj self
    rw [contentsDepth?, Option.ite_none_right_eq_some, Option.some.injEq]
    constructor
    · rintro ⟨reads, rfl⟩
      exact ⟨children, span, _, rfl, uncommented_dropComments _, reads⟩
    · rintro ⟨_, _, text, ⟨⟩, bare, reads⟩
      obtain rfl := uncommented_iff.1 bare
      exact ⟨reads, rfl⟩
  | list items span =>
    obtain rfl := Option.some.inj self
    refine iff_of_false (by simp [contentsDepth?]) ?_
    rintro ⟨_, _, _, ⟨⟩, _⟩
  | _ => cases self

theorem isHeadingOf_iff {b : Block} {l : Landmark} (self : ofSelf b = some l) (depth : Nat) :
    l.isHeadingOf depth = true ↔ b.IsHeading depth := by
  cases b with
  | heading d children span =>
    obtain rfl := Option.some.inj self
    rw [isHeadingOf, decide_eq_true_eq]
    constructor
    · rintro rfl
      exact ⟨children, span, rfl⟩
    · rintro ⟨_, _, ⟨⟩⟩
      rfl
  | list items span =>
    obtain rfl := Option.some.inj self
    refine iff_of_false Bool.false_ne_true ?_
    rintro ⟨_, _, ⟨⟩⟩
  | _ => cases self

theorem contentsDepth?_eq_none {bs : List Block} (none : ∀ b ∈ bs, ∀ depth, ¬ b.IsContents depth) :
    ∀ l ∈ bs.filterMap ofSelf, l.contentsDepth? = .none := by
  intro l member
  obtain ⟨b, inside, self⟩ := List.mem_filterMap.1 member
  exact Option.eq_none_iff_forall_ne_some.2 fun depth found =>
    none b inside depth ((contentsDepth?_eq_some_iff self depth).1 found)

theorem isHeadingOf_eq_false {bs : List Block} {depth : Nat}
    (none : ∀ b ∈ bs, ¬ b.IsHeading depth) :
    ∀ l ∈ bs.filterMap ofSelf, (!l.isHeadingOf depth) = true := by
  intro l member
  obtain ⟨b, inside, self⟩ := List.mem_filterMap.1 member
  rw [Bool.not_eq_true', ← Bool.not_eq_true, isHeadingOf_iff self]
  exact none b inside

/-! ## The two searches -/

theorem scan_of_forall {ls : List Landmark} (none : ∀ l ∈ ls, l.contentsDepth? = none) :
    afterContents.scan ls = .none := by
  induction ls with
  | nil => rfl
  | cons l ls ih =>
    rw [afterContents.scan, none l List.mem_cons_self]
    exact ih fun m member => none m (List.mem_cons_of_mem l member)

theorem scan_append {before : List Landmark} (none : ∀ l ∈ before, l.contentsDepth? = none)
    {contents : Landmark} {depth : Nat} (isContents : contents.contentsDepth? = some depth)
    (after : List Landmark) :
    afterContents.scan (before ++ contents :: after) =
      some (after.dropWhile fun l => !l.isHeadingOf depth) := by
  induction before with
  | nil => rw [List.nil_append, afterContents.scan, isContents]
  | cons l before ih =>
    rw [List.cons_append, afterContents.scan, none l List.mem_cons_self]
    exact ih fun m member => none m (List.mem_cons_of_mem l member)

theorem dropWhile_append_closing {between : List Landmark} {depth : Nat}
    (next : ∀ l ∈ between, (!l.isHeadingOf depth) = true) {closing : Landmark}
    (isClosing : closing.isHeadingOf depth = true) (after : List Landmark) :
    ((between ++ closing :: after).dropWhile fun l => !l.isHeadingOf depth) = closing :: after := by
  rw [List.dropWhile_append_of_pos next, List.dropWhile_cons, isClosing]
  rfl

theorem afterContents_eq (ls : List Landmark) : afterContents ls = (afterContents.scan ls).getD ls := by
  cases ls <;> rfl

/-- The two searches among the landmarks leave the lists after the table of contents. -/
theorem lists_afterContents {bs rest : List Block} (h : AfterContents bs rest) :
    lists (afterContents (bs.filterMap ofSelf)) = Block.lists rest := by
  cases h with
  | absent none =>
    rw [afterContents_eq, scan_of_forall (contentsDepth?_eq_none none), Option.getD_none,
      lists_filterMap_ofSelf]
  | unclosed first isContents none =>
    obtain ⟨l, self⟩ := isContents.exists_ofSelf
    have depth := (contentsDepth?_eq_some_iff self _).2 isContents
    rw [afterContents_eq, List.filterMap_append, List.filterMap_cons_some self,
      scan_append (contentsDepth?_eq_none first) depth, Option.getD_some,
      List.dropWhile_eq_nil_iff.2 (isHeadingOf_eq_false none)]
    rfl
  | @closed _ _ _ _ _ d first isContents next isClosing =>
    obtain ⟨l, self⟩ := isContents.exists_ofSelf
    have depth := (contentsDepth?_eq_some_iff self _).2 isContents
    obtain ⟨m, closes⟩ := isClosing.exists_ofSelf
    have noList : lists [m] = [] := by
      obtain ⟨_, _, rfl⟩ := isClosing
      obtain rfl := Option.some.inj closes
      rfl
    rw [afterContents_eq, List.filterMap_append, List.filterMap_cons_some self,
      scan_append (contentsDepth?_eq_none first) depth, Option.getD_some, List.filterMap_append,
      List.filterMap_cons_some closes,
      dropWhile_append_closing (isHeadingOf_eq_false next) ((isHeadingOf_iff closes d).2 isClosing),
      ← List.singleton_append, lists_append, noList, List.nil_append, lists_filterMap_ofSelf]

end Landmark

/-! ## The selected lists -/

/-- Without regard to a table of contents, the selected lists are the lists of the document in
pre-order. With regard to it, they are the lists among the blocks that follow the table, which are a last
part of these. -/
theorem selectLists_scope (doc : Document) :
    selectLists doc false = Block.lists doc.preorder ∧
    (∃ rest, AfterContents doc.preorder rest) ∧
    (∀ rest, AfterContents doc.preorder rest → selectLists doc true = Block.lists rest) ∧
    selectLists doc true <:+ selectLists doc false := by
  have landmarks : Landmark.ofBlocks doc.blocks = doc.preorder.filterMap Landmark.ofSelf :=
    Landmark.ofBlocks_eq_filterMap doc.blocks
  refine ⟨?_, AfterContents.exists _, fun rest follows => ?_, suffix_selectLists doc true⟩
  · rw [selectLists_false, landmarks, Landmark.lists_filterMap_ofSelf]
  · have selected : selectLists doc true =
        Landmark.lists (Landmark.afterContents (Landmark.ofBlocks doc.blocks)) := rfl
    rw [selected, landmarks, Landmark.lists_afterContents follows]

/-- A quoted table of contents, and a list that holds the heading after it. -/
def quotedContents : Document where
  blocks := [
    .other [.heading 2 [.text " Contents " {}, .html "<!-- toc -->" {}] {}] {},
    .list [
      .mk [.heading 3 [.text "Deeper" {}] {}] {},
      .mk [.heading 2 [.text "Tools" {}] {}, .list [.mk [] ⟨1, 2⟩] {}] {}] {},
    .list [.mk [] ⟨3, 4⟩] {}]

theorem selectLists_scope_quoted :
    AfterContents quotedContents.preorder
      [.list [.mk [] ⟨1, 2⟩] {}, .list [.mk [] ⟨3, 4⟩] {}] ∧
    selectLists quotedContents true = [([.mk [] ⟨1, 2⟩], {}), ([.mk [] ⟨3, 4⟩], {})] := by
  have follows : AfterContents quotedContents.preorder
      [.list [.mk [] ⟨1, 2⟩] {}, .list [.mk [] ⟨3, 4⟩] {}] := by
    change AfterContents ([_] ++ _ :: ([_, _] ++ _ :: _)) _
    refine .closed ?_ ?_ ?_ ⟨_, _, rfl⟩
    · rw [List.forall_mem_singleton]
      rintro d ⟨_, _, _, ⟨⟩, _⟩
    · exact ⟨_, _, _, rfl, uncommented_dropComments _, by decide +kernel⟩
    · rw [List.forall_mem_cons, List.forall_mem_singleton]
      constructor <;> rintro ⟨_, _, ⟨⟩⟩
  exact ⟨follows, (selectLists_scope quotedContents).2.2.1 _ follows⟩

end CuratedList
