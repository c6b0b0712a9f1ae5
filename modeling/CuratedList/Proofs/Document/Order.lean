import CuratedList.Proofs.Document.Entries

/-! # Documents in order

In a document that was read from a source, siblings follow one another and each node lies in its parent.
This is what `InOrder` says, with one allowance: blocks that hold no blocks, such as paragraphs and
thematic breaks, may stand in any order among themselves, as long as none of them changes places with
a block that may hold lists.
-/

namespace CuratedList
set_option autoImplicit false

theorem Span.Within.refl (a : Span) : a.Within a := ⟨Nat.le_refl _, Nat.le_refl _⟩

theorem Span.Within.trans {a b c : Span} (ab : a.Within b) (bc : b.Within c) : a.Within c :=
  ⟨Nat.le_trans bc.1 ab.1, Nat.le_trans ab.2 bc.2⟩

theorem Span.cover_of_within {a b : Span} (h : b.Within a) : a.cover b = a := by
  obtain ⟨start, stop⟩ := h
  rw [Span.cover, Nat.min_eq_left start, Nat.max_eq_left stop]

/-! ## Inline nodes -/

mutual

/-- A node and what is inside it are in order. -/
def Inline.InOrder : Inline → Prop
  | .text _ s | .code _ s | .image _ _ s | .html _ s | .footnoteReference _ s | .lineBreak s =>
    s.start ≤ s.stop
  | .emphasis cs s | .strong cs s | .delete cs s | .link _ cs s | .linkReference cs s =>
    s.start ≤ s.stop ∧ Inline.AllInOrder s cs

/-- Siblings in a parent with span `s` are in order. -/
def Inline.AllInOrder (s : Span) : List Inline → Prop
  | [] => True
  | n :: ns => (n.span.Within s ∧ n.InOrder) ∧ (∀ m ∈ ns, n.span.stop ≤ m.span.start) ∧
      Inline.AllInOrder s ns

end

namespace Inline

theorem inOrder_iff (n : Inline) :
    n.InOrder ↔ n.span.start ≤ n.span.stop ∧ AllInOrder n.span n.children := by
  cases n <;> simp [InOrder, AllInOrder, span, children]

theorem allInOrder_iff (s : Span) (ns : List Inline) :
    AllInOrder s ns ↔ (∀ n ∈ ns, n.span.Within s ∧ n.InOrder) ∧
      ns.Pairwise fun m n => m.span.stop ≤ n.span.start := by
  induction ns with
  | nil => simp [AllInOrder]
  | cons n ns ih =>
    rw [AllInOrder, ih, List.forall_mem_cons, List.pairwise_cons]
    simp only [and_assoc, and_left_comm]

theorem allInOrder_concat (s : Span) (ns : List Inline) (n : Inline) :
    AllInOrder s (ns ++ [n]) ↔ AllInOrder s ns ∧ (n.span.Within s ∧ n.InOrder) ∧
      ∀ m ∈ ns, m.span.stop ≤ n.span.start := by
  simp only [allInOrder_iff, List.forall_mem_append, List.pairwise_append, List.forall_mem_singleton,
    List.pairwise_singleton, true_and, and_assoc, and_left_comm]

theorem AllInOrder.mono {s t : Span} {ns : List Inline} (h : AllInOrder s ns) (st : s.Within t) :
    AllInOrder t ns := by
  rw [allInOrder_iff] at h ⊢
  exact ⟨fun n member => ⟨(h.1 n member).1.trans st, (h.1 n member).2⟩, h.2⟩

end Inline

/-! ## Blocks -/

namespace Block

/-- Does a block hold no blocks? -/
def isLeaf : Block → Bool
  | heading .. | paragraph .. | other [] _ => true
  | list .. | other (_ :: _) _ => false

/-- A block may stand before another. -/
def Precedes (b c : Block) : Prop := (b.isLeaf = true ∧ c.isLeaf = true) ∨ b.span.stop ≤ c.span.start

theorem Precedes.stop_le_start {b c : Block} (h : b.Precedes c) (holds : c.isLeaf = false) :
    b.span.stop ≤ c.span.start := by
  rcases h with ⟨-, leaf⟩ | le
  · rw [holds] at leaf
    cases leaf
  · exact le

end Block

mutual

/-- A block and what is inside it are in order. -/
def Block.InOrder : Block → Prop
  | .heading _ cs s | .paragraph cs s => s.start ≤ s.stop ∧ Inline.AllInOrder s cs
  | .list items s => s.start ≤ s.stop ∧ Item.AllInOrder s items
  | .other cs s => s.start ≤ s.stop ∧ Block.AllInOrder s cs

/-- Siblings in a parent with span `s` are in order. -/
def Block.AllInOrder (s : Span) : List Block → Prop
  | [] => True
  | b :: bs => (b.span.Within s ∧ b.InOrder) ∧ (∀ c ∈ bs, b.Precedes c) ∧ Block.AllInOrder s bs

/-- An item and what is inside it are in order. -/
def Item.InOrder : Item → Prop
  | .mk cs s => s.start ≤ s.stop ∧ Block.AllInOrder s cs

/-- Siblings in a list with span `s` are in order. -/
def Item.AllInOrder (s : Span) : List Item → Prop
  | [] => True
  | i :: is => (i.span.Within s ∧ i.InOrder) ∧ (∀ j ∈ is, i.span.stop ≤ j.span.start) ∧
      Item.AllInOrder s is

end

/-- The blocks of a document are in order. -/
def Document.InOrder (doc : Document) : Prop := ∃ s, Block.AllInOrder s doc.blocks

namespace Block

theorem InOrder.start_le_stop {b : Block} (h : b.InOrder) : b.span.start ≤ b.span.stop := by
  cases b <;> exact h.1

theorem allInOrder_iff (s : Span) (bs : List Block) :
    AllInOrder s bs ↔ (∀ b ∈ bs, b.span.Within s ∧ b.InOrder) ∧ bs.Pairwise Precedes := by
  induction bs with
  | nil => simp [AllInOrder]
  | cons b bs ih =>
    rw [AllInOrder, ih, List.forall_mem_cons, List.pairwise_cons]
    simp only [and_assoc, and_left_comm]

theorem allInOrder_concat (s : Span) (bs : List Block) (b : Block) :
    AllInOrder s (bs ++ [b]) ↔ AllInOrder s bs ∧ (b.span.Within s ∧ b.InOrder) ∧
      ∀ c ∈ bs, c.Precedes b := by
  simp only [allInOrder_iff, List.forall_mem_append, List.pairwise_append, List.forall_mem_singleton,
    List.pairwise_singleton, true_and, and_assoc, and_left_comm]

end Block

namespace Item

theorem InOrder.start_le_stop {i : Item} (h : i.InOrder) : i.span.start ≤ i.span.stop := by
  cases i
  exact h.1

theorem allInOrder_iff (s : Span) (is : List Item) :
    AllInOrder s is ↔ (∀ i ∈ is, i.span.Within s ∧ i.InOrder) ∧
      is.Pairwise fun i j => i.span.stop ≤ j.span.start := by
  induction is with
  | nil => simp [AllInOrder]
  | cons i is ih =>
    rw [AllInOrder, ih, List.forall_mem_cons, List.pairwise_cons]
    simp only [and_assoc, and_left_comm]

end Item

/-! ## Entries of documents in order -/

theorem Block.isLeaf_of_mem_entries {b : Block} {e : Item} (member : e ∈ b.entries) :
    b.isLeaf = false := by
  cases b with
  | heading => cases member
  | paragraph => cases member
  | list => rfl
  | other cs s =>
    cases cs with
    | nil => cases member
    | cons c cs => rfl

theorem Block.mem_entriesAll {bs : List Block} {e : Item} :
    e ∈ Block.entriesAll bs ↔ ∃ b ∈ bs, e ∈ b.entries := by
  induction bs with
  | nil => simp [Block.entriesAll]
  | cons b bs ih => simp only [Block.entriesAll, List.mem_append, ih, List.mem_cons, exists_eq_or_imp]

/-! An entry lies in every block and item around it, and is in order itself. -/

mutual

theorem Block.InOrder.entry {e : Item} :
    (b : Block) → b.InOrder → e ∈ b.entries → e.span.Within b.span ∧ e.InOrder
  | .heading .., _, member => by cases member
  | .paragraph .., _, member => by cases member
  | .list items s, h, member => Item.AllInOrder.entry items h.2 member
  | .other children s, h, member => Block.AllInOrder.entry children h.2 member

theorem Block.AllInOrder.entry {s : Span} {e : Item} : (bs : List Block) →
    Block.AllInOrder s bs → e ∈ Block.entriesAll bs → e.span.Within s ∧ e.InOrder
  | [], _, member => by cases member
  | b :: bs, h, member => by
    rcases List.mem_append.1 member with inside | later
    · obtain ⟨within, inOrder⟩ := Block.InOrder.entry b h.1.2 inside
      exact ⟨within.trans h.1.1, inOrder⟩
    · exact Block.AllInOrder.entry bs h.2.2 later

theorem Item.InOrder.entry {e : Item} :
    (i : Item) → i.InOrder → e ∈ i.inner → e.span.Within i.span ∧ e.InOrder
  | .mk children _, h, member => Block.AllInOrder.entry children h.2 member

theorem Item.AllInOrder.entry {s : Span} {e : Item} : (is : List Item) →
    Item.AllInOrder s is → e ∈ Item.entriesAll is → e.span.Within s ∧ e.InOrder
  | [], _, member => by cases member
  | i :: is, h, member => by
    rcases List.mem_cons.1 member with rfl | member
    · exact h.1
    · rcases List.mem_append.1 member with inside | later
      · obtain ⟨within, inOrder⟩ := Item.InOrder.entry i h.1.2 inside
        exact ⟨within.trans h.1.1, inOrder⟩
      · exact Item.AllInOrder.entry is h.2.2 later

end

/-! ## Lists of documents in order -/

namespace Landmark

mutual

theorem inOrder_of_block : (b : Block) → b.InOrder →
    ∀ l ∈ lists (ofBlock b), ∃ s, Item.AllInOrder s l.1
  | .heading .., _, _, member => by cases member
  | .paragraph .., _, _, member => by cases member
  | .list items s, h, l, member => by
    rw [ofBlock, lists_list] at member
    rcases List.mem_cons.1 member with rfl | inside
    · exact ⟨s, h.2⟩
    · exact inOrder_of_items items h.2 l inside
  | .other children _, h, l, member => inOrder_of_blocks children h.2 l member

theorem inOrder_of_blocks {s : Span} : (bs : List Block) → Block.AllInOrder s bs →
    ∀ l ∈ lists (ofBlocks bs), ∃ s, Item.AllInOrder s l.1
  | [], _, _, member => by cases member
  | b :: bs, h, l, member => by
    rw [ofBlocks, lists_append] at member
    rcases List.mem_append.1 member with inside | later
    · exact inOrder_of_block b h.1.2 l inside
    · exact inOrder_of_blocks bs h.2.2 l later

theorem inOrder_of_item : (i : Item) → i.InOrder →
    ∀ l ∈ lists (ofItem i), ∃ s, Item.AllInOrder s l.1
  | .mk children _, h, l, member => inOrder_of_blocks children h.2 l member

theorem inOrder_of_items {s : Span} : (is : List Item) → Item.AllInOrder s is →
    ∀ l ∈ lists (ofItems is), ∃ s, Item.AllInOrder s l.1
  | [], _, _, member => by cases member
  | i :: is, h, l, member => by
    rw [ofItems, lists_append] at member
    rcases List.mem_append.1 member with inside | later
    · exact inOrder_of_item i h.1.2 l inside
    · exact inOrder_of_items is h.2.2 l later

end

end Landmark
end CuratedList
