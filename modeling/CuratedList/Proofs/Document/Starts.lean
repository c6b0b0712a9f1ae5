import CuratedList.Proofs.Document.Entries

/-! # Where the nodes of a document start

`StartsIn p` says of a node that it, and every node inside it, starts at an offset that satisfies `p`.
-/

namespace CuratedList
set_option autoImplicit false

/-! ## Nodes -/

mutual

/-- A node and all nodes inside it start at offsets that satisfy `p`. -/
def Inline.StartsIn (p : Nat → Prop) : Inline → Prop
  | .text _ s | .code _ s | .image _ _ s | .html _ s | .footnoteReference _ s | .lineBreak s =>
    p s.start
  | .emphasis cs s | .strong cs s | .delete cs s | .link _ cs s | .linkReference cs s =>
    p s.start ∧ Inline.AllStartIn p cs

/-- Nodes and all nodes inside them start at offsets that satisfy `p`. -/
def Inline.AllStartIn (p : Nat → Prop) : List Inline → Prop
  | [] => True
  | n :: ns => n.StartsIn p ∧ Inline.AllStartIn p ns

end

mutual

/-- A block and all nodes inside it start at offsets that satisfy `p`. -/
def Block.StartsIn (p : Nat → Prop) : Block → Prop
  | .heading _ cs s | .paragraph cs s => p s.start ∧ Inline.AllStartIn p cs
  | .list items s => p s.start ∧ Item.AllStartIn p items
  | .other cs s => p s.start ∧ Block.AllStartIn p cs

/-- Blocks and all nodes inside them start at offsets that satisfy `p`. -/
def Block.AllStartIn (p : Nat → Prop) : List Block → Prop
  | [] => True
  | b :: bs => b.StartsIn p ∧ Block.AllStartIn p bs

/-- An item and all nodes inside it start at offsets that satisfy `p`. -/
def Item.StartsIn (p : Nat → Prop) : Item → Prop
  | .mk cs s => p s.start ∧ Block.AllStartIn p cs

/-- Items and all nodes inside them start at offsets that satisfy `p`. -/
def Item.AllStartIn (p : Nat → Prop) : List Item → Prop
  | [] => True
  | i :: is => i.StartsIn p ∧ Item.AllStartIn p is

end

variable {p : Nat → Prop}

theorem Span.start_cover {a b : Span} (ha : p a.start) (hb : p b.start) : p (a.cover b).start := by
  unfold Span.cover
  rcases Nat.le_total a.start b.start with le | le
  · rw [Nat.min_eq_left le]
    exact ha
  · rw [Nat.min_eq_right le]
    exact hb

theorem Inline.allStartIn_iff (ns : List Inline) :
    Inline.AllStartIn p ns ↔ ∀ n ∈ ns, n.StartsIn p := by
  induction ns with
  | nil => simp [Inline.AllStartIn]
  | cons n ns ih => rw [Inline.AllStartIn, ih, List.forall_mem_cons]

theorem Block.allStartIn_iff (bs : List Block) :
    Block.AllStartIn p bs ↔ ∀ b ∈ bs, b.StartsIn p := by
  induction bs with
  | nil => simp [Block.AllStartIn]
  | cons b bs ih => rw [Block.AllStartIn, ih, List.forall_mem_cons]

theorem Item.allStartIn_iff (is : List Item) :
    Item.AllStartIn p is ↔ ∀ i ∈ is, i.StartsIn p := by
  induction is with
  | nil => simp [Item.AllStartIn]
  | cons i is ih => rw [Item.AllStartIn, ih, List.forall_mem_cons]

theorem Inline.startsIn_iff (n : Inline) :
    n.StartsIn p ↔ p n.span.start ∧ Inline.AllStartIn p n.children := by
  cases n <;> simp [Inline.StartsIn, Inline.AllStartIn, Inline.span, Inline.children]

theorem Inline.StartsIn.span {n : Inline} (h : n.StartsIn p) : p n.span.start :=
  ((Inline.startsIn_iff n).1 h).1

theorem Block.StartsIn.span {b : Block} (h : b.StartsIn p) : p b.span.start := by
  cases b <;> exact h.1

/-! ## Entries -/

mutual

theorem Block.StartsIn.entry {e : Item} :
    (b : Block) → b.StartsIn p → e ∈ b.entries → e.StartsIn p
  | .heading .., _, member => by cases member
  | .paragraph .., _, member => by cases member
  | .list items _, h, member => Item.AllStartIn.entry items h.2 member
  | .other children _, h, member => Block.AllStartIn.entry children h.2 member

theorem Block.AllStartIn.entry {e : Item} :
    (bs : List Block) → Block.AllStartIn p bs → e ∈ Block.entriesAll bs → e.StartsIn p
  | [], _, member => by cases member
  | b :: bs, h, member => by
    rcases List.mem_append.1 member with inside | later
    · exact Block.StartsIn.entry b h.1 inside
    · exact Block.AllStartIn.entry bs h.2 later

theorem Item.AllStartIn.entry {e : Item} :
    (is : List Item) → Item.AllStartIn p is → e ∈ Item.entriesAll is → e.StartsIn p
  | [], _, member => by cases member
  | .mk children span :: is, h, member => by
    rcases List.mem_cons.1 member with rfl | member
    · exact h.1
    · rcases List.mem_append.1 member with inside | later
      · exact Block.AllStartIn.entry children h.1.2 inside
      · exact Item.AllStartIn.entry is h.2 later

end

end CuratedList
