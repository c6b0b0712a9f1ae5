import CuratedList.Document

/-! # Documents without spans

What a document says, apart from where it was read: every span is set to the empty one. The text of a
node does not depend on spans.
-/

namespace CuratedList
set_option autoImplicit false

mutual

/-- A node without spans. -/
def Inline.bare : Inline → Inline
  | .text value _ => .text value {}
  | .emphasis children _ => .emphasis (Inline.bareAll children) {}
  | .strong children _ => .strong (Inline.bareAll children) {}
  | .delete children _ => .delete (Inline.bareAll children) {}
  | .code value _ => .code value {}
  | .link url children _ => .link url (Inline.bareAll children) {}
  | .linkReference children _ => .linkReference (Inline.bareAll children) {}
  | .image url alt _ => .image url alt {}
  | .html value _ => .html value {}
  | .footnoteReference label _ => .footnoteReference label {}
  | .lineBreak _ => .lineBreak {}

/-- Consecutive nodes without spans. -/
def Inline.bareAll : List Inline → List Inline
  | [] => []
  | n :: ns => n.bare :: Inline.bareAll ns

end

mutual

/-- A block without spans. -/
def Block.bare : Block → Block
  | .heading depth children _ => .heading depth (Inline.bareAll children) {}
  | .paragraph children _ => .paragraph (Inline.bareAll children) {}
  | .list items _ => .list (Item.bareAll items) {}
  | .other children _ => .other (Block.bareAll children) {}

/-- Consecutive blocks without spans. -/
def Block.bareAll : List Block → List Block
  | [] => []
  | b :: bs => b.bare :: Block.bareAll bs

/-- An item without spans. -/
def Item.bare : Item → Item
  | .mk children _ => .mk (Block.bareAll children) {}

/-- Consecutive items without spans. -/
def Item.bareAll : List Item → List Item
  | [] => []
  | i :: is => i.bare :: Item.bareAll is

end

/-- A document without spans. -/
def Document.bare (doc : Document) : Document := ⟨Block.bareAll doc.blocks⟩

namespace Inline

theorem bareAll_eq_map (ns : List Inline) : bareAll ns = ns.map bare := by
  induction ns with
  | nil => rfl
  | cons n ns ih => rw [bareAll, List.map_cons, ih]

@[simp] theorem bareAll_append (ms ns : List Inline) : bareAll (ms ++ ns) = bareAll ms ++ bareAll ns := by
  simp only [bareAll_eq_map, List.map_append]

mutual

theorem plainText_bare : (n : Inline) → n.bare.plainText = n.plainText
  | .text .. | .code .. | .image .. | .html .. | .footnoteReference .. | .lineBreak .. => rfl
  | .emphasis children _ | .strong children _ | .delete children _ | .link _ children _
  | .linkReference children _ => by
    simp only [bare, plainText]
    exact plainTextAll_bareAll children

theorem plainTextAll_bareAll : (ns : List Inline) → plainTextAll (bareAll ns) = plainTextAll ns
  | [] => rfl
  | n :: ns => by
    rw [bareAll, plainTextAll, plainText_bare n, plainTextAll_bareAll ns, plainTextAll]

end

end Inline

namespace Block

theorem bareAll_eq_map (bs : List Block) : bareAll bs = bs.map bare := by
  induction bs with
  | nil => rfl
  | cons b bs ih => rw [bareAll, List.map_cons, ih]

@[simp] theorem bareAll_append (as bs : List Block) : bareAll (as ++ bs) = bareAll as ++ bareAll bs := by
  simp only [bareAll_eq_map, List.map_append]

end Block
end CuratedList
