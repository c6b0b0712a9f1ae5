import CuratedList.Proofs.Document.Order
import Mathlib.Data.List.Chain

/-! # Boxes of inline nodes

The inline nodes of a document stand in boxes: paragraphs, headings and inline containers, at any depth.
`Document.boxes` lists them, and the predicates on a box say what one asks of its nodes.
-/

namespace CuratedList
set_option autoImplicit false

/-- A paragraph, a heading or an inline container: the nodes in it and where it was read. -/
structure InlineBox where
  children : List Inline
  span : Span

namespace InlineBox

/-- No text comes right after a text. -/
def Merged (box : InlineBox) : Prop :=
  box.children.IsChain fun m n => m.kind = .text → n.kind ≠ .text

structure Ordered (box : InlineBox) : Prop where
  forward : ∀ n ∈ box.children, n.span.start ≤ n.span.stop
  apart : box.children.Pairwise fun m n => m.span.stop ≤ n.span.start

/-- The nodes lie where the box was read. -/
def Encloses (box : InlineBox) : Prop := ∀ n ∈ box.children, n.span.Within box.span

end InlineBox

/-! ## The boxes of a document -/

mutual

def Inline.boxes : Inline → List InlineBox
  | .emphasis cs s | .strong cs s | .delete cs s | .link _ cs s | .linkReference cs s =>
    ⟨cs, s⟩ :: Inline.boxesAll cs
  -- an image keeps the text of its nodes only
  | .text .. | .code .. | .image .. | .html .. | .footnoteReference .. | .lineBreak .. => []

def Inline.boxesAll : List Inline → List InlineBox
  | [] => []
  | n :: ns => n.boxes ++ Inline.boxesAll ns

end

mutual

def Block.boxes : Block → List InlineBox
  | .heading _ cs s | .paragraph cs s => ⟨cs, s⟩ :: Inline.boxesAll cs
  | .list items _ => Item.boxesAll items
  | .other cs _ => Block.boxesAll cs

def Block.boxesAll : List Block → List InlineBox
  | [] => []
  | b :: bs => b.boxes ++ Block.boxesAll bs

def Item.boxes : Item → List InlineBox
  | .mk cs _ => Block.boxesAll cs

def Item.boxesAll : List Item → List InlineBox
  | [] => []
  | i :: is => i.boxes ++ Item.boxesAll is

end

def Document.boxes (doc : Document) : List InlineBox := Block.boxesAll doc.blocks

theorem Inline.boxesAll_concat (ns : List Inline) (n : Inline) :
    Inline.boxesAll (ns ++ [n]) = Inline.boxesAll ns ++ n.boxes := by
  induction ns with
  | nil => simp [Inline.boxesAll]
  | cons m ns ih => rw [List.cons_append, Inline.boxesAll, ih, Inline.boxesAll, List.append_assoc]

theorem Block.boxesAll_concat (bs : List Block) (b : Block) :
    Block.boxesAll (bs ++ [b]) = Block.boxesAll bs ++ b.boxes := by
  induction bs with
  | nil => simp [Block.boxesAll]
  | cons c bs ih => rw [List.cons_append, Block.boxesAll, ih, Block.boxesAll, List.append_assoc]

theorem Item.boxesAll_concat (is : List Item) (i : Item) :
    Item.boxesAll (is ++ [i]) = Item.boxesAll is ++ i.boxes := by
  induction is with
  | nil => simp [Item.boxesAll]
  | cons j is ih => rw [List.cons_append, Item.boxesAll, ih, Item.boxesAll, List.append_assoc]

namespace InlineBox

theorem merged_nil (s : Span) : Merged ⟨[], s⟩ := List.IsChain.nil

/-- A node can be added unless it would put a text after a text. -/
theorem Merged.concat {ns : List Inline} {s : Span} (h : Merged ⟨ns, s⟩) (n : Inline) (t : Span)
    (fits : n.kind = .text → ∀ m ∈ ns.getLast?, m.kind ≠ .text) : Merged ⟨ns ++ [n], t⟩ := by
  refine List.isChain_append.2 ⟨h, List.isChain_singleton n, ?_⟩
  intro m last k here isText isText'
  obtain rfl : n = k := by simpa using here
  exact fits isText' m last isText

/-- The last text can be exchanged for another. -/
theorem Merged.exchange {ns : List Inline} {s : Span} {m : Inline} (h : Merged ⟨ns ++ [m], s⟩)
    (isText : m.kind = .text) {n : Inline} (t : Span) : Merged ⟨ns ++ [n], t⟩ := by
  obtain ⟨front, -, last⟩ := List.isChain_append.1 h
  have before : Merged ⟨ns, s⟩ := front
  refine before.concat n t fun _ k here isText' => ?_
  exact last k here m rfl isText' isText

end InlineBox
end CuratedList
