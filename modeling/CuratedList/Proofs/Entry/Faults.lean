import CuratedList.Check
import CuratedList.Proofs.Entry.Sites
import CuratedList.Proofs.Markdown.Order

/-! # Faults of an entry

What a rejected entry is rejected at (`Item.Fault`): the entry itself, its first block, a node right in
that block, or a node right in its link. The entries of a source hold all of these, so a report about an
entry points into it (`rejected_inside_entry`). This takes events that are ordered and nested; spans
that the builder makes itself, those of joined texts and of paragraphs without a start event, keep to
what the events say.
-/

namespace CuratedList
set_option autoImplicit false

/-- The spans at which an entry can be at fault. -/
inductive Item.Fault (item : Item) : Span → Prop
  | entry : item.Fault item.span
  | firstBlock {block : Block} {blocks : List Block} (first : item.children = block :: blocks) :
      item.Fault block.span
  | node {nodes : List Inline} {span : Span} {blocks : List Block} {node : Inline}
      (first : item.children = .paragraph nodes span :: blocks) (inside : node ∈ nodes) :
      item.Fault node.span
  | linkChild {link child : Inline} {description : List Inline}
      (parts : Parts.ofItem item = .ok (.linked link description)) (inside : child ∈ link.children) :
      item.Fault child.span

/-- The link and the description of an entry are at fault where a node is. -/
theorem fault_of_linked (cx : Context) (first : Inline) (rest : List Inline) (span itemSpan : Span)
    (blocks : List Block) (linked : ¬ ∃ value textSpan, first = .text value textSpan) {v : Violation}
    (rejected : validateEntry cx (.mk (.paragraph (first :: rest) span :: blocks) itemSpan) = .error v) :
    Item.Fault (.mk (.paragraph (first :: rest) span :: blocks) itemSpan) v.span := by
  obtain ⟨filler, nodes, -⟩ := skipFiller_split first rest
  have parts := ofItem_linked first rest span itemSpan blocks linked
  rw [validateEntry_linked cx first rest span itemSpan blocks linked] at rejected
  have places : RejectsAt ((Parts.skipFiller first rest).1.sites ++
      (Parts.skipFiller first rest).2.map Inline.span)
      (validateLink cx (Parts.skipFiller first rest).1 >>= fun _ =>
        validateDescription cx (Parts.skipFiller first rest).2) :=
    .bind ((validateLink_rejectsAt cx _).mono (List.subset_append_left ..)) fun _ _ =>
      (validateDescription_rejectsAt cx _).mono (List.subset_append_right ..)
  rcases List.mem_append.1 (places v rejected) with inLink | inDescription
  · rcases Inline.cases_of_mem_sites inLink with here | ⟨child, inside, here⟩
    · rw [here]
      exact .node rfl (by rw [nodes]; simp)
    · rw [here]
      exact .linkChild parts inside
  · obtain ⟨node, inside, here⟩ := List.mem_map.1 inDescription
    rw [← here]
    refine .node rfl ?_
    rw [nodes]
    exact List.mem_append_right _ (List.mem_cons_of_mem _ inside)

/-- A rejected entry is at fault where it is rejected. -/
theorem fault_of_rejected {cx : Context} {item : Item} {v : Violation}
    (rejected : validateEntry cx item = .error v) : item.Fault v.span := by
  obtain ⟨children, itemSpan⟩ := item
  cases children with
  | nil =>
    cases rejected
    exact .entry
  | cons block blocks =>
    have children : (Item.mk (block :: blocks) itemSpan).children = block :: blocks := rfl
    have firstBlock : (Item.mk (block :: blocks) itemSpan).Fault block.span := .firstBlock children
    cases block with
    | paragraph nodes span =>
      cases nodes with
      | nil =>
        cases rejected
        exact firstBlock
      | cons first rest =>
        by_cases isText : ∃ value textSpan, first = .text value textSpan
        · obtain ⟨value, textSpan, rfl⟩ := isText
          cases rejected
        · exact fault_of_linked cx first rest span itemSpan blocks isText rejected
    | _ =>
      cases rejected
      exact firstBlock

/-- An entry of a source with ordered events is rejected inside its own span, at one of its faults. -/
theorem rejected_inside_entry {source : String} {span : Span} {forest : List Markdown.FlowTree}
    (flattened : Markdown.events source = Markdown.FlowTree.eventsAll forest)
    (ordered : Markdown.FlowTree.AllInOrder span forest) (cx : Context) {item : Item}
    (member : item ∈ (Document.ofMarkdown source).entries) {v : Violation}
    (rejected : validateEntry cx item = .error v) :
    v.span.Within item.span ∧ item.Fault v.span := by
  have inOrder : (Document.ofMarkdown source).InOrder := by
    rw [Document.ofMarkdown, flattened]
    exact Markdown.inOrder_ofEvents ordered
  obtain ⟨whole, blocks⟩ := inOrder
  obtain ⟨-, entry⟩ := Block.AllInOrder.entry _ blocks member
  have site := validateEntry_rejectsAt cx item v rejected
  exact ⟨(entry.site site).1, fault_of_rejected rejected⟩

/-- An entry inside another one. Its link holds code, a line end and strong text. -/
def strongLinkSource : String := "- A\n  - [`b`\n    **B**](https://b.c) - Tool.\n"

/-- The event trees of that source. -/
def strongLinkForest : List Markdown.FlowTree :=
  [.list
    [.mk
      [.inline (.leaf (.text "A") ⟨2, 3⟩),
        .list
          [.mk
            [.inline (.nest (.link .direct "https://b.c")
              [.leaf (.code "b") ⟨9, 12⟩, .leaf .softBreak ⟨12, 13⟩,
                .nest .strong [.leaf (.text "B") ⟨19, 20⟩] ⟨17, 22⟩] ⟨8, 36⟩),
              .inline (.leaf (.text " - Tool.") ⟨36, 44⟩)] ⟨6, 45⟩] ⟨6, 45⟩] ⟨0, 45⟩] ⟨0, 45⟩]

/-- The strong text is at fault, two levels inside the inner entry. -/
theorem rejected_inside_entry_strong :
    Markdown.events strongLinkSource = Markdown.FlowTree.eventsAll strongLinkForest ∧
    Markdown.FlowTree.AllInOrder ⟨0, 45⟩ strongLinkForest ∧
    ∃ item ∈ (Document.ofMarkdown strongLinkSource).entries,
      validateEntry (.standard .builtin) item = .error ⟨.invalidLink, ⟨17, 22⟩⟩ ∧
      Span.Within ⟨17, 22⟩ item.span ∧ item.Fault ⟨17, 22⟩ := by
  have flattened : Markdown.events strongLinkSource =
      Markdown.FlowTree.eventsAll strongLinkForest := by
    decide +kernel
  have ordered : Markdown.FlowTree.AllInOrder ⟨0, 45⟩ strongLinkForest := by
    simp [strongLinkForest, Markdown.FlowTree.AllInOrder, Markdown.FlowTree.InOrder,
      Markdown.ItemTree.AllInOrder, Markdown.ItemTree.InOrder, Markdown.InlineTree.AllInOrder,
      Markdown.InlineTree.InOrder, Markdown.FlowTree.span, Markdown.ItemTree.span,
      Markdown.InlineTree.span, Span.Within]
  obtain ⟨outer, inner, entries⟩ : ∃ outer inner,
      (Document.ofMarkdown strongLinkSource).entries = [outer, inner] ∧
        validateEntry (.standard .builtin) inner = .error ⟨.invalidLink, ⟨17, 22⟩⟩ := by
    rw [Document.ofMarkdown, flattened]
    exact ⟨_, _, rfl, by decide +kernel⟩
  have member : inner ∈ (Document.ofMarkdown strongLinkSource).entries := by
    rw [entries.1]
    simp
  exact ⟨flattened, ordered, inner, member, entries.2,
    rejected_inside_entry flattened ordered (.standard .builtin) member entries.2⟩

end CuratedList
