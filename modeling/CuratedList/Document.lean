import CuratedList.Span

/-! # Documents

The tree that the rules read: block containers that hold inline nodes. A block is a heading, a
paragraph, a list or something else; what else it is does not matter to the rules, but its nested
blocks do, because lists may stand in them.
-/

namespace CuratedList
set_option autoImplicit false

/-! ## Inline nodes -/

/-- Inline content of a heading or paragraph. -/
inductive Inline where
  /-- Plain text. -/
  | text (value : String) (span : Span)
  | emphasis (children : List Inline) (span : Span)
  | strong (children : List Inline) (span : Span)
  /-- Struck out text. -/
  | delete (children : List Inline) (span : Span)
  /-- A code span, without its backticks. -/
  | code (value : String) (span : Span)
  /-- A link that names its destination. -/
  | link (url : String) (children : List Inline) (span : Span)
  /-- A link by label, `[text][label]`, `[text][]` or `[text]`. -/
  | linkReference (children : List Inline) (span : Span)
  /-- An image with its flattened description. -/
  | image (url alt : String) (span : Span)
  /-- Raw inline HTML. -/
  | html (value : String) (span : Span)
  | footnoteReference (label : String) (span : Span)
  /-- A hard line break. -/
  | lineBreak (span : Span)
  deriving Repr, Inhabited

namespace Inline

/-- The constructor of an inline node. -/
inductive Kind where
  | text
  | emphasis
  | strong
  | delete
  | code
  | link
  | linkReference
  | image
  | html
  | footnoteReference
  | lineBreak
  deriving DecidableEq, Repr, Inhabited

/-- The kind of a node. -/
def kind : Inline → Kind
  | text .. => .text
  | emphasis .. => .emphasis
  | strong .. => .strong
  | delete .. => .delete
  | code .. => .code
  | link .. => .link
  | linkReference .. => .linkReference
  | image .. => .image
  | html .. => .html
  | footnoteReference .. => .footnoteReference
  | lineBreak .. => .lineBreak

/-- Where a node was read. -/
def span : Inline → Span
  | text _ s | emphasis _ s | strong _ s | delete _ s | code _ s | link _ _ s | linkReference _ s
  | image _ _ s | html _ s | footnoteReference _ s | lineBreak s => s

/-- The nodes inside a node. -/
def children : Inline → List Inline
  | emphasis cs _ | strong cs _ | delete cs _ | link _ cs _ | linkReference cs _ => cs
  | text .. | code .. | image .. | html .. | footnoteReference .. | lineBreak .. => []

/-- A link of either form. -/
def isLinkLike : Inline → Bool
  | link .. | linkReference .. => true
  | _ => false

/-- The value of a text node. -/
def asText : Inline → Option String
  | text value _ => some value
  | _ => none

mutual

/-- The text of a node as a reader sees it: code without backticks, images by their description,
hard breaks as line ends, footnote references not at all. -/
def plainText : Inline → String
  | text value _ | code value _ | html value _ => value
  | image _ alt _ => alt
  | lineBreak _ => "\n"
  | footnoteReference _ _ => ""
  | emphasis cs _ | strong cs _ | delete cs _ | link _ cs _ | linkReference cs _ => plainTextAll cs

/-- The text of consecutive nodes. -/
def plainTextAll : List Inline → String
  | [] => ""
  | n :: ns => n.plainText ++ plainTextAll ns

end

theorem plainTextAll_append (ns ms : List Inline) :
    plainTextAll (ns ++ ms) = plainTextAll ns ++ plainTextAll ms := by
  induction ns with
  | nil => simp only [List.nil_append, plainTextAll, String.empty_append]
  | cons n ns ih => simp only [List.cons_append, plainTextAll, ih, String.append_assoc]

end Inline

/-! ## Blocks -/

mutual

/-- A block of a document. -/
inductive Block where
  | heading (depth : Nat) (children : List Inline) (span : Span)
  | paragraph (children : List Inline) (span : Span)
  | list (items : List Item) (span : Span)
  /-- A quote, footnote definition, code or HTML block, table or thematic break. -/
  | other (children : List Block) (span : Span)

/-- An entry of a list: normally a paragraph, then nested lists. -/
inductive Item where
  | mk (children : List Block) (span : Span)

end

instance : Inhabited Block := ⟨.other [] {}⟩

instance : Inhabited Item := ⟨.mk [] {}⟩

namespace Block

/-- Where a block was read. -/
def span : Block → Span
  | heading _ _ s | paragraph _ s | list _ s | other _ s => s

end Block

namespace Item

/-- The blocks of an item. -/
def children : Item → List Block
  | mk cs _ => cs

/-- Where an item was read. -/
def span : Item → Span
  | mk _ s => s

end Item

/-- The blocks of one source. -/
structure Document where
  blocks : List Block := []

end CuratedList
