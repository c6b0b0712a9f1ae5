import CuratedList.Scope

/-! # The entries of a document

Every item of every list is an entry, wherever the list stands: in the document itself, in another
item, in a quote or in a footnote definition. `Document.entries` gives them in document order, each
entry followed by the entries inside it. The landmarks of a document hold its lists in the order in
which they start, so they give the same entries, each as often, but list by list
(`perm_entries_of_landmarks`). The lists that are checked come from an end of the landmarks.
-/

namespace CuratedList
set_option autoImplicit false

/-! ## Entries in document order -/

mutual

/-- The entries in a block. -/
def Block.entries : Block → List Item
  | .heading .. | .paragraph .. => []
  | .list items _ => Item.entriesAll items
  | .other children _ => Block.entriesAll children

/-- The entries in consecutive blocks. -/
def Block.entriesAll : List Block → List Item
  | [] => []
  | b :: bs => b.entries ++ Block.entriesAll bs

/-- The entries inside an item, without the item itself. -/
def Item.inner : Item → List Item
  | .mk children _ => Block.entriesAll children

/-- Consecutive items, each followed by the entries inside it. -/
def Item.entriesAll : List Item → List Item
  | [] => []
  | i :: is => i :: (i.inner ++ Item.entriesAll is)

end

/-- The entries of a document. -/
def Document.entries (doc : Document) : List Item := Block.entriesAll doc.blocks

/-! ## Entries list by list -/

namespace Landmark

/-- The lists among landmarks. -/
def lists (ls : List Landmark) : List (List Item × Span) := ls.filterMap asList

/-- The items of the lists among landmarks. -/
def items (ls : List Landmark) : List Item := (lists ls).flatMap Prod.fst

theorem mem_items {ls : List Landmark} {e : Item} : e ∈ items ls ↔ ∃ l ∈ lists ls, e ∈ l.1 :=
  List.mem_flatMap

@[simp] theorem lists_append (as bs : List Landmark) : lists (as ++ bs) = lists as ++ lists bs :=
  List.filterMap_append

@[simp] theorem lists_list (is : List Item) (span : Span) (ls : List Landmark) :
    lists (list is span :: ls) = (is, span) :: lists ls := rfl

@[simp] theorem items_nil : items [] = [] := rfl

@[simp] theorem items_append (as bs : List Landmark) : items (as ++ bs) = items as ++ items bs := by
  simp only [items, lists, List.filterMap_append, List.flatMap_append]

@[simp] theorem items_heading (depth : Nat) (text : List Char) (ls : List Landmark) :
    items (heading depth text :: ls) = items ls := rfl

@[simp] theorem items_list (is : List Item) (span : Span) (ls : List Landmark) :
    items (list is span :: ls) = is ++ items ls := rfl

/-! The order differs: the landmarks give all items of a list before the entries inside any of them.
So the induction for items compares with the items put in front. -/

mutual

theorem perm_entries_of_block : (b : Block) → (items (ofBlock b)).Perm b.entries
  | .heading .. => by simp [ofBlock, Block.entries]
  | .paragraph .. => by simp [ofBlock, Block.entries]
  | .list is _ => by
    rw [ofBlock, items_list, Block.entries]
    exact perm_entries_of_items is
  | .other children _ => by
    rw [ofBlock, Block.entries]
    exact perm_entries_of_blocks children

theorem perm_entries_of_blocks : (bs : List Block) → (items (ofBlocks bs)).Perm (Block.entriesAll bs)
  | [] => by simp [ofBlocks, Block.entriesAll]
  | b :: bs => by
    rw [ofBlocks, items_append, Block.entriesAll]
    exact (perm_entries_of_block b).append (perm_entries_of_blocks bs)

theorem perm_inner_of_item : (i : Item) → (items (ofItem i)).Perm i.inner
  | .mk children _ => by
    rw [ofItem, Item.inner]
    exact perm_entries_of_blocks children

theorem perm_entries_of_items :
    (is : List Item) → (is ++ items (ofItems is)).Perm (Item.entriesAll is)
  | [] => by simp [ofItems, Item.entriesAll]
  | i :: is => by
    rw [ofItems, items_append, Item.entriesAll, List.cons_append]
    refine List.Perm.cons i ?_
    have h : (is ++ (items (ofItem i) ++ items (ofItems is))).Perm
        (items (ofItem i) ++ (is ++ items (ofItems is))) := by
      rw [← List.append_assoc, ← List.append_assoc]
      exact List.perm_append_comm.append_right _
    exact h.trans ((perm_inner_of_item i).append (perm_entries_of_items is))

end

theorem perm_entries_of_landmarks (doc : Document) :
    (items (ofBlocks doc.blocks)).Perm doc.entries := perm_entries_of_blocks doc.blocks

theorem mem_items_ofItem {i e : Item} : e ∈ items (ofItem i) ↔ e ∈ i.inner :=
  (perm_inner_of_item i).mem_iff

theorem mem_items_ofItems {is : List Item} {e : Item} :
    e ∈ items (ofItems is) ↔ ∃ i ∈ is, e ∈ i.inner := by
  induction is with
  | nil => simp [ofItems]
  | cons i is ih =>
    simp only [ofItems, items_append, List.mem_append, mem_items_ofItem, ih, List.mem_cons,
      exists_eq_or_imp]

/-! ## Inner entries come later -/

/-- The entries inside the items of a list are in later lists. -/
def InnerLater : List (List Item × Span) → Prop
  | [] => True
  | l :: ls => (∀ i ∈ l.1, ∀ e ∈ i.inner, ∃ m ∈ ls, e ∈ m.1) ∧ InnerLater ls

theorem InnerLater.append {as bs : List (List Item × Span)} (ha : InnerLater as)
    (hb : InnerLater bs) : InnerLater (as ++ bs) := by
  induction as with
  | nil => exact hb
  | cons a as ih =>
    refine ⟨fun i member e inside => ?_, ih ha.2⟩
    obtain ⟨m, later, here⟩ := ha.1 i member e inside
    exact ⟨m, List.mem_append_left _ later, here⟩

theorem InnerLater.of_suffix {as bs : List (List Item × Span)} (h : InnerLater bs)
    (suffix : as <:+ bs) : InnerLater as := by
  obtain ⟨front, rfl⟩ := suffix
  induction front with
  | nil => exact h
  | cons a front ih => exact ih h.2

mutual

theorem innerLater_of_block : (b : Block) → InnerLater (lists (ofBlock b))
  | .heading .. => trivial
  | .paragraph .. => trivial
  | .list is _ => by
    rw [ofBlock, lists_list]
    refine ⟨fun i member e inside => ?_, innerLater_of_items is⟩
    exact mem_items.1 (mem_items_ofItems.2 ⟨i, member, inside⟩)
  | .other children _ => innerLater_of_blocks children

theorem innerLater_of_blocks : (bs : List Block) → InnerLater (lists (ofBlocks bs))
  | [] => trivial
  | b :: bs => by
    rw [ofBlocks, lists_append]
    exact (innerLater_of_block b).append (innerLater_of_blocks bs)

theorem innerLater_of_item : (i : Item) → InnerLater (lists (ofItem i))
  | .mk children _ => innerLater_of_blocks children

theorem innerLater_of_items : (is : List Item) → InnerLater (lists (ofItems is))
  | [] => trivial
  | i :: is => by
    rw [ofItems, lists_append]
    exact (innerLater_of_item i).append (innerLater_of_items is)

end

/-! ## The lists that are checked -/

theorem scan_suffix {ls rest : List Landmark} (h : afterContents.scan ls = some rest) :
    rest <:+ ls := by
  induction ls with
  | nil => simp [afterContents.scan] at h
  | cons l ls ih =>
    rw [afterContents.scan] at h
    split at h
    next depth _ =>
      rw [Option.some.injEq] at h
      rw [← h]
      exact (List.dropWhile_suffix _).trans (List.suffix_cons l ls)
    next => exact (ih h).trans (List.suffix_cons l ls)

theorem afterContents_suffix (ls : List Landmark) : afterContents ls <:+ ls := by
  cases ls with
  | nil => exact List.suffix_refl _
  | cons l ls =>
    rw [afterContents]
    cases h : afterContents.scan (l :: ls) with
    | none => exact List.suffix_refl _
    | some rest => exact scan_suffix h

end Landmark

/-- The checked lists are the lists of the landmarks from some point on. -/
theorem selectLists_eq_lists (doc : Document) (respectContents : Bool) :
    ∃ ls, ls <:+ Landmark.ofBlocks doc.blocks ∧ selectLists doc respectContents = Landmark.lists ls := by
  cases respectContents with
  | false => exact ⟨_, List.suffix_refl _, rfl⟩
  | true => exact ⟨_, Landmark.afterContents_suffix _, rfl⟩

theorem selectLists_false (doc : Document) :
    selectLists doc false = Landmark.lists (Landmark.ofBlocks doc.blocks) := rfl

theorem suffix_selectLists (doc : Document) (respectContents : Bool) :
    selectLists doc respectContents <:+ selectLists doc false := by
  obtain ⟨ls, h, e⟩ := selectLists_eq_lists doc respectContents
  rw [e, selectLists_false]
  exact h.filterMap _

end CuratedList
