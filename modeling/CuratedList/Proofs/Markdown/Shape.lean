import CuratedList.Proofs.Document.Bare
import CuratedList.Proofs.Markdown.Construction

/-! # The shape of a document

Beside the builder stands the recursive reading of an event tree: each tree is one block, adjacent text
is one node, and a tight item is read in its loose form, where every run of bare inline content is a
paragraph. `FlowTree.shapes` gives the blocks of this reading without spans.

The builder gives the same blocks exactly for forests where no thematic break follows bare inline content
(`bare_ofEvents_eq_iff`). Elsewhere the break does not end the pending paragraph: it comes out before
that paragraph, and content after it is drawn into it.
-/

namespace CuratedList.Markdown
set_option autoImplicit false

/-! ## Adjacent texts -/

/-- Puts a node before others; a text joins a text right after it. -/
def joinHead : Inline → List Inline → List Inline
  | .text a _, .text b _ :: ns => .text (a ++ b) {} :: ns
  | n, ns => n :: ns

/-- Joins adjacent texts. -/
def joinTexts : List Inline → List Inline
  | [] => []
  | n :: ns => joinHead n (joinTexts ns)

/-- Puts a node after others; a text joins a text right before it. -/
def joinLast : List Inline → Inline → List Inline
  | [], n => [n]
  | [m], n => joinHead m [n]
  | m :: m' :: ms, n => m :: joinLast (m' :: ms) n

theorem joinHead_of_asText {n : Inline} (h : n.asText = none) (ns : List Inline) :
    joinHead n ns = n :: ns := by
  cases n with
  | text value s => simp [Inline.asText] at h
  | _ => rfl

theorem joinHead_singleton {n : Inline} (h : n.asText = none) (m : Inline) : joinHead m [n] = [m, n] := by
  cases n with
  | text value s => simp [Inline.asText] at h
  | _ => cases m <;> rfl

theorem joinLast_concat (ms : List Inline) (m n : Inline) :
    joinLast (ms ++ [m]) n = ms ++ joinHead m [n] := by
  induction ms with
  | nil => rfl
  | cons k ms ih =>
    cases ms with
    | nil => rfl
    | cons k' ms =>
      have h : joinLast (k :: k' :: ms ++ [m]) n = k :: joinLast (k' :: ms ++ [m]) n := rfl
      rw [h, ih]
      rfl

theorem joinLast_of_asText (ms : List Inline) {n : Inline} (h : n.asText = none) :
    joinLast ms n = ms ++ [n] := by
  rcases List.eq_nil_or_concat ms with rfl | ⟨init, m, rfl⟩
  · rfl
  · rw [List.concat_eq_append, joinLast_concat, joinHead_singleton h, List.append_assoc]
    rfl

/-- Joining from the left and joining from the right meet in the middle. -/
theorem joinHead_joinLast (x : Inline) (ys : List Inline) (n : Inline) :
    joinHead x (joinLast ys n) = joinLast (joinHead x ys) n := by
  cases hx : x.asText with
  | none =>
    rw [joinHead_of_asText hx, joinHead_of_asText hx]
    cases ys with
    | nil => rw [joinLast, joinLast, joinHead_of_asText hx]
    | cons y ys => rfl
  | some a =>
    cases x <;> simp only [Inline.asText, reduceCtorEq] at hx
    next value s =>
      match ys with
      | [] => rfl
      | [y] => cases y <;> cases n <;> simp [joinLast, joinHead, String.append_assoc]
      | y :: y' :: ys => cases y <;> rfl

theorem joinTexts_concat (ms : List Inline) (n : Inline) :
    joinTexts (ms ++ [n]) = joinLast (joinTexts ms) n := by
  induction ms with
  | nil => cases n <;> rfl
  | cons m ms ih => rw [List.cons_append, joinTexts, ih, joinHead_joinLast, joinTexts]

theorem foldl_joinLast (ms ns : List Inline) :
    ns.foldl joinLast (joinTexts ms) = joinTexts (ms ++ ns) := by
  induction ns generalizing ms with
  | nil => rw [List.foldl_nil, List.append_nil]
  | cons n ns ih => rw [List.foldl_cons, ← joinTexts_concat, ih, List.append_assoc, List.singleton_append]

/-! ## The shape of inline content -/

/-- What a leaf stands for: a node, or nothing. -/
def Leaf.nodes : Leaf → List Inline
  | text value => [.text value {}]
  | softBreak => [.text "\n" {}]
  | hardBreak => [.lineBreak {}]
  | code value => [.code value {}]
  | html value => [.html value {}]
  | footnoteReference label => [.footnoteReference label {}]
  | taskMarker => []

namespace InlineTree

mutual

/-- What a tree stands for, beside its neighbours. -/
def nodes : InlineTree → List Inline
  | leaf l _ => l.nodes
  | nest m children _ => [m.node (joinTexts (nodesAll children)) {}]

/-- What consecutive trees stand for, with adjacent texts apart. -/
def nodesAll : List InlineTree → List Inline
  | [] => []
  | t :: ts => t.nodes ++ nodesAll ts

end

/-- The nodes of consecutive trees. -/
def shapes (ts : List InlineTree) : List Inline := joinTexts (nodesAll ts)

theorem nodesAll_append (ts us : List InlineTree) : nodesAll (ts ++ us) = nodesAll ts ++ nodesAll us := by
  induction ts with
  | nil => rfl
  | cons t ts ih => rw [List.cons_append, nodesAll, ih, nodesAll, List.append_assoc]

theorem nodesAll_of_markers {ts : List InlineTree} (h : ts.all isMarker = true) : nodesAll ts = [] := by
  induction ts with
  | nil => rfl
  | cons t ts ih =>
    rw [List.all_cons, Bool.and_eq_true] at h
    have e : t.nodes = [] := by
      rcases t with ⟨_ | _ | _ | _ | _ | _ | _, s⟩ | ⟨m, children, s⟩ <;>
        first | rfl | simp [isMarker] at h
    rw [nodesAll, e, ih h.2, List.append_nil]

end InlineTree

namespace Markup

theorem bare_node (m : Markup) (children : List Inline) (span : Span) :
    (m.node children span).bare = m.node (Inline.bareAll children) {} := by
  cases m with
  | link form url => cases form <;> rfl
  | image url => simp only [node, Inline.bare, Inline.plainTextAll_bareAll]
  | _ => rfl

theorem asText_node (m : Markup) (children : List Inline) (span : Span) :
    (m.node children span).asText = none := by
  cases m with
  | link form url => cases form <;> rfl
  | _ => rfl

end Markup

namespace Row

theorem bare_push (r : Row) {n : Inline} (h : n.bare.asText = none) :
    Inline.bareAll (r.push n).children = joinLast (Inline.bareAll r.children) n.bare := by
  rw [push, Inline.bareAll_append, joinLast_of_asText _ h]
  rfl

theorem bare_pushText (r : Row) (value : String) (span : Span) :
    Inline.bareAll (r.pushText value span).children =
      joinLast (Inline.bareAll r.children) (.text value {}) := by
  unfold pushText
  rcases List.eq_nil_or_concat r.children with e | ⟨init, last, e⟩
  · rw [e]
    simp [push, e, Inline.bareAll, Inline.bare, joinLast]
  · rw [e, List.concat_eq_append, List.getLast?_append, Inline.bareAll_append]
    have h : Inline.bareAll [last] = [last.bare] := rfl
    rw [h, joinLast_concat]
    cases last <;> simp [push, e, Inline.bareAll, Inline.bare, joinHead]

end Row

/-- What the builder does to a row is, without spans, to add nodes with texts joined. -/
theorem Leaf.bare_into (r : Row) (s : Span) (l : Leaf) :
    Inline.bareAll (l.into r s).children = l.nodes.foldl joinLast (Inline.bareAll r.children) := by
  cases l with
  | text value => exact r.bare_pushText value s
  | softBreak => exact r.bare_pushText "\n" s
  | taskMarker => rfl
  | _ => exact r.bare_push rfl

namespace InlineTree

mutual

theorem bare_into (r : Row) : (t : InlineTree) →
    Inline.bareAll (t.into r).children = t.nodes.foldl joinLast (Inline.bareAll r.children)
  | leaf l s => l.bare_into r s
  | nest m children s => by
    have inner := bare_intoAll { span := s } children
    have apart : (m.node (intoAll { span := s } children).children
        (intoAll { span := s } children).span).bare.asText = none := by
      rw [Markup.bare_node, Markup.asText_node]
    rw [into, r.bare_push apart, Markup.bare_node, inner, nodes, List.foldl_cons, List.foldl_nil]
    exact congrArg _ (congrArg (m.node · {}) (foldl_joinLast [] _))

theorem bare_intoAll (r : Row) : (ts : List InlineTree) →
    Inline.bareAll (intoAll r ts).children = (nodesAll ts).foldl joinLast (Inline.bareAll r.children)
  | [] => rfl
  | t :: ts => by
    rw [intoAll, bare_intoAll (t.into r) ts, bare_into r t, nodesAll, List.foldl_append]

end

theorem bare_intoAll_nil (s : Span) (ts : List InlineTree) :
    Inline.bareAll (intoAll { span := s } ts).children = shapes ts :=
  (bare_intoAll _ ts).trans (foldl_joinLast [] _)

end InlineTree

/-! ## The shape of a forest -/

namespace FlowTree

mutual

/-- The block of a tree. -/
def shape : FlowTree → Block
  | inline t => .paragraph (InlineTree.shapes [t]) {}
  | paragraph children _ => .paragraph (InlineTree.shapes children) {}
  | heading depth children _ => .heading depth (InlineTree.shapes children) {}
  | rule _ | sealed _ _ _ => .other [] {}
  | list items _ => .list (itemShapes items) {}
  | box _ children _ => .other (shapes children) {}

/-- The blocks of consecutive trees, one for each. -/
def shapes : List FlowTree → List Block
  | [] => []
  | t :: ts => t.shape :: shapes ts

/-- The items of consecutive item trees. -/
def itemShapes : List ItemTree → List Item
  | [] => []
  | .mk children _ :: is => .mk (shapes children) {} :: itemShapes is

end

theorem shapes_append (ts us : List FlowTree) : shapes (ts ++ us) = shapes ts ++ shapes us := by
  induction ts with
  | nil => rfl
  | cons t ts ih => rw [List.cons_append, shapes, ih, shapes, List.cons_append]

mutual

/-- No thematic break follows bare inline content directly, here and inside; `pending` tells whether bare
content, a task marker aside, precedes the first tree. -/
def RulesApart (pending : Bool) : List FlowTree → Prop
  | [] => True
  | inline t :: ts => RulesApart (pending || !t.isMarker) ts
  | rule _ :: ts => pending = false ∧ RulesApart false ts
  | list items _ :: ts => ItemRulesApart items ∧ RulesApart false ts
  | box _ children _ :: ts => RulesApart false children ∧ RulesApart false ts
  | paragraph _ _ :: ts | heading _ _ _ :: ts | sealed _ _ _ :: ts => RulesApart false ts

/-- No thematic break follows bare inline content directly inside the items. -/
def ItemRulesApart : List ItemTree → Prop
  | [] => True
  | .mk children _ :: is => RulesApart false children ∧ ItemRulesApart is

end

/-! ## Pending paragraphs -/

/-- What the builder has pending is the paragraph of the run read last. -/
def Reads (run : List InlineTree) : Option Row → Prop
  | none => run.all InlineTree.isMarker = true
  | some r => run.all InlineTree.isMarker = false ∧ Inline.bareAll r.children = InlineTree.shapes run

theorem reads_nil : Reads [] none := rfl

theorem isSome_pendingAfter (p : Option Row) (t : InlineTree) :
    (t.pendingAfter p).isSome = (p.isSome || !t.isMarker) := by
  cases p with
  | none => cases h : t.isMarker <;> simp [InlineTree.pendingAfter, h]
  | some r => rfl

theorem Reads.concat {run : List InlineTree} {p : Option Row} (h : Reads run p) (t : InlineTree) :
    Reads (run ++ [t]) (t.pendingAfter p) := by
  have nodes : InlineTree.nodesAll (run ++ [t]) = InlineTree.nodesAll run ++ t.nodes := by
    rw [InlineTree.nodesAll_append, InlineTree.nodesAll, InlineTree.nodesAll, List.append_nil]
  cases p with
  | none =>
    have run0 : InlineTree.nodesAll run = [] := InlineTree.nodesAll_of_markers h
    have h : run.all InlineTree.isMarker = true := h
    cases ht : t.isMarker with
    | true => simp [InlineTree.pendingAfter, ht, Reads, h]
    | false =>
      simp only [InlineTree.pendingAfter, ht, Bool.false_eq_true, if_false]
      refine ⟨by simp [ht], ?_⟩
      rw [InlineTree.bare_into, InlineTree.shapes, nodes, run0, List.nil_append]
      exact foldl_joinLast [] t.nodes
  | some r =>
    obtain ⟨some_content, children⟩ := h
    refine ⟨by simp [some_content], ?_⟩
    rw [InlineTree.bare_into, children, InlineTree.shapes, foldl_joinLast, InlineTree.shapes, nodes]

theorem Reads.wrap {run : List InlineTree} {p : Option Row} (h : Reads run p) :
    Block.bareAll (Flow.mk [] p).closed = shapes (wrap run) := by
  cases p with
  | none =>
    have h : run.all InlineTree.isMarker = true := h
    cases run with
    | nil => rfl
    | cons t ts =>
      rw [FlowTree.wrap, if_pos h]
      rfl
  | some r =>
    obtain ⟨some_content, children⟩ := h
    cases run with
    | nil => simp at some_content
    | cons t ts =>
      rw [FlowTree.wrap, if_neg (by rw [some_content]; decide)]
      simp only [Flow.closed, List.nil_append, Block.bareAll, Block.bare, children, shapes, shape]

/-! ## Where the builder agrees -/

/-! What is finished stays in front. -/

theorem closed_mk (done : List Block) (p : Option Row) :
    (Flow.mk done p).closed = done ++ (Flow.mk [] p).closed := by
  cases p with
  | none => exact (List.append_nil done).symm
  | some r => rfl

theorem into_mk (done : List Block) (p : Option Row) (t : FlowTree) :
    t.into ⟨done, p⟩ = ⟨done ++ (t.into ⟨[], p⟩).done, (t.into ⟨[], p⟩).pending⟩ := by
  cases t <;>
    simp only [into, Flow.push, closed_mk done p, List.append_assoc, List.nil_append,
      List.append_nil]

theorem closed_intoAll (done : List Block) (p : Option Row) (ts : List FlowTree) :
    (intoAll ⟨done, p⟩ ts).closed = done ++ (intoAll ⟨[], p⟩ ts).closed := by
  induction ts generalizing done p with
  | nil => exact closed_mk done p
  | cons t ts ih =>
    have front := ih (t.into ⟨[], p⟩).done (t.into ⟨[], p⟩).pending
    rw [intoAll, into_mk, ih, List.append_assoc, intoAll, ← front]

/-- A block sibling ends the run before it. What is left to compare is the block and what follows. -/
theorem bare_push_eq_iff {run : List InlineTree} {p : Option Row} (h : Reads run p) (block : Block)
    (t : FlowTree) (ts us : List FlowTree) :
    Block.bareAll (intoAll ((Flow.mk [] p).push block) ts).closed = shapes (wrap run ++ t :: us) ↔
      block.bare = t.shape ∧ Block.bareAll (intoAll {} ts).closed = shapes us := by
  have left : Block.bareAll (intoAll ((Flow.mk [] p).push block) ts).closed =
      shapes (wrap run) ++ block.bare :: Block.bareAll (intoAll {} ts).closed := by
    rw [Flow.push, closed_intoAll, Block.bareAll_append, Block.bareAll_append, h.wrap,
      List.append_assoc]
    rfl
  rw [left, shapes_append, List.append_cancel_left_eq, shapes, List.cons.injEq]

/-- The first block of a run in a paragraph is that paragraph. -/
theorem Reads.wrap_some {run : List InlineTree} {r : Row} (h : Reads run (some r)) :
    shapes (FlowTree.wrap run) = [.paragraph (InlineTree.shapes run) {}] := by
  rw [← h.wrap]
  simp only [Flow.closed, List.nil_append, Block.bareAll, Block.bare, h.2]

mutual

theorem bare_intoAll_eq_iff {run : List InlineTree} {p : Option Row} (h : Reads run p) :
    (ts : List FlowTree) →
    (Block.bareAll (intoAll ⟨[], p⟩ ts).closed = shapes (loosenAfter run ts) ↔
      RulesApart p.isSome ts)
  | [] => by
    rw [intoAll, loosenAfter, h.wrap, RulesApart, eq_self]
  | inline t :: ts => by
    rw [intoAll, into, loosenAfter, RulesApart, ← isSome_pendingAfter]
    exact bare_intoAll_eq_iff (h.concat t) ts
  | rule s :: ts => by
    have rest : _ ↔ RulesApart false ts := bare_intoAll_eq_iff reads_nil ts
    cases p with
    | none =>
      have same := bare_push_eq_iff h (.other [] s) (rule s) ts (loosenAfter [] ts)
      simp only [intoAll, into, loosenAfter, loosenInside, RulesApart]
      refine same.trans ?_
      rw [rest]
      simp [Block.bare, Block.bareAll, shape]
    | some r =>
      -- The break is the first block here, and the paragraph is the first block of the loose form.
      simp only [intoAll, into, loosenAfter, RulesApart]
      rw [closed_intoAll, shapes_append, h.wrap_some]
      simp [Block.bareAll, Block.bare]
  | paragraph children s :: ts => by
    have rest : _ ↔ RulesApart false ts := bare_intoAll_eq_iff reads_nil ts
    simp only [intoAll, into, loosenAfter, loosenInside, RulesApart]
    rw [bare_push_eq_iff h, rest]
    simp [Block.bare, shape, InlineTree.bare_intoAll_nil]
  | heading depth children s :: ts => by
    have rest : _ ↔ RulesApart false ts := bare_intoAll_eq_iff reads_nil ts
    simp only [intoAll, into, loosenAfter, loosenInside, RulesApart]
    rw [bare_push_eq_iff h, rest]
    simp [Block.bare, shape, InlineTree.bare_intoAll_nil]
  | sealed kind children s :: ts => by
    have rest : _ ↔ RulesApart false ts := bare_intoAll_eq_iff reads_nil ts
    simp only [intoAll, into, loosenAfter, loosenInside, RulesApart]
    rw [bare_push_eq_iff h, rest]
    simp [Block.bare, Block.bareAll, shape]
  | list items s :: ts => by
    have rest : _ ↔ RulesApart false ts := bare_intoAll_eq_iff reads_nil ts
    simp only [intoAll, into, loosenAfter, loosenInside, RulesApart]
    rw [bare_push_eq_iff h, rest, Block.bare, shape, ← bare_itemsOf_eq_iff items]
    simp
  | box kind children s :: ts => by
    have rest : _ ↔ RulesApart false ts := bare_intoAll_eq_iff reads_nil ts
    have inside : _ ↔ RulesApart false children := bare_intoAll_eq_iff reads_nil children
    simp only [intoAll, into, loosenAfter, loosenInside, RulesApart]
    rw [bare_push_eq_iff h, rest, Block.bare, shape, ← inside]
    simp

theorem bare_itemsOf_eq_iff :
    (is : List ItemTree) →
    (Item.bareAll (itemsOf is) = itemShapes (loosenItems is) ↔ ItemRulesApart is)
  | [] => by
    rw [itemsOf, loosenItems, ItemRulesApart, Item.bareAll, itemShapes, eq_self]
  | .mk children s :: is => by
    have inside : _ ↔ RulesApart false children := bare_intoAll_eq_iff reads_nil children
    rw [itemsOf, loosenItems, ItemRulesApart, Item.bareAll, itemShapes, itemOf, Item.bare,
      ← bare_itemsOf_eq_iff is, ← inside]
    simp

end

theorem bare_ofEvents_eq_iff (ts : List FlowTree) :
    (Document.ofEvents (eventsAll ts)).bare = ⟨shapes (loosen ts)⟩ ↔ RulesApart false ts := by
  rw [ofEvents_eventsAll, Document.bare, Document.mk.injEq]
  exact bare_intoAll_eq_iff reads_nil ts

/-! ## Loose forms -/

@[simp] theorem wrap_nil : wrap [] = [] := rfl

theorem loosenAfter_wrap (run : List InlineTree) (us : List FlowTree) :
    loosenAfter [] (wrap run ++ us) = wrap run ++ loosenAfter [] us := by
  cases run with
  | nil => rfl
  | cons t ts =>
    rw [wrap]
    split <;> rfl

theorem rulesApart_wrap (run : List InlineTree) (us : List FlowTree) :
    RulesApart false (wrap run ++ us) ↔ RulesApart false us := by
  cases run with
  | nil => rfl
  | cons t ts =>
    rw [wrap]
    split
    next => rfl
    next => rw [List.singleton_append, RulesApart]

mutual

theorem loosenAfter_loosenAfter (run : List InlineTree) : (ts : List FlowTree) →
    loosenAfter [] (loosenAfter run ts) = loosenAfter run ts
  | [] => by
    rw [loosenAfter]
    have h := loosenAfter_wrap run []
    rwa [List.append_nil, loosenAfter, wrap_nil, List.append_nil] at h
  | inline t :: ts => by
    rw [loosenAfter]
    exact loosenAfter_loosenAfter (run ++ [t]) ts
  | rule s :: ts | paragraph _ s :: ts | heading _ _ s :: ts | sealed _ _ s :: ts => by
    simp only [loosenAfter, loosenAfter_wrap, loosenInside, loosenAfter_loosenAfter [] ts, wrap_nil,
      List.nil_append]
  | list items s :: ts => by
    simp only [loosenAfter, loosenAfter_wrap, loosenInside, loosenAfter_loosenAfter [] ts, wrap_nil,
      List.nil_append, loosenItems_loosenItems items]
  | box kind children s :: ts => by
    simp only [loosenAfter, loosenAfter_wrap, loosenInside, loosenAfter_loosenAfter [] ts, wrap_nil,
      List.nil_append, loosenAfter_loosenAfter [] children]

theorem loosenItems_loosenItems : (is : List ItemTree) → loosenItems (loosenItems is) = loosenItems is
  | [] => rfl
  | .mk children s :: is => by
    simp only [loosenItems, loosenAfter_loosenAfter [] children, loosenItems_loosenItems is]

end

mutual

theorem rulesApart_loosenAfter (run : List InlineTree) : (ts : List FlowTree) →
    RulesApart false (loosenAfter run ts)
  | [] => by
    rw [loosenAfter, ← List.append_nil (wrap run), rulesApart_wrap, RulesApart]
    trivial
  | inline t :: ts => by
    rw [loosenAfter]
    exact rulesApart_loosenAfter (run ++ [t]) ts
  | rule s :: ts | paragraph _ s :: ts | heading _ _ s :: ts | sealed _ _ s :: ts => by
    simp only [loosenAfter, rulesApart_wrap, loosenInside, RulesApart, rulesApart_loosenAfter [] ts,
      true_and]
  | list items s :: ts => by
    simp only [loosenAfter, rulesApart_wrap, loosenInside, RulesApart, rulesApart_loosenAfter [] ts,
      itemRulesApart_loosenItems items, true_and]
  | box kind children s :: ts => by
    simp only [loosenAfter, rulesApart_wrap, loosenInside, RulesApart, rulesApart_loosenAfter [] ts,
      rulesApart_loosenAfter [] children, true_and]

theorem itemRulesApart_loosenItems : (is : List ItemTree) → ItemRulesApart (loosenItems is)
  | [] => by
    rw [loosenItems, ItemRulesApart]
    trivial
  | .mk children s :: is => by
    rw [loosenItems, ItemRulesApart]
    exact ⟨rulesApart_loosenAfter [] children, itemRulesApart_loosenItems is⟩

end

/-- The builder reads the loose form of any forest as it stands. -/
theorem bare_ofEvents_loosen (ts : List FlowTree) :
    (Document.ofEvents (eventsAll (loosen ts))).bare = ⟨shapes (loosen ts)⟩ := by
  have h := (bare_ofEvents_eq_iff (loosen ts)).2 (rulesApart_loosenAfter [] ts)
  have e : loosen (loosen ts) = loosen ts := loosenAfter_loosenAfter [] ts
  rwa [e] at h

/-! ## The builder and the recursive reading -/

/-- On the events of a forest, the builder gives the blocks of the recursive reading, and gives the tight
form the shape of its loose form, exactly if no thematic break follows bare inline content directly. -/
theorem builder_agrees_iff_rulesApart (ts : List FlowTree) :
    ((Document.ofEvents (eventsAll ts)).bare = ⟨shapes (loosen ts)⟩ ↔ RulesApart false ts) ∧
    ((Document.ofEvents (eventsAll ts)).bare = (Document.ofEvents (eventsAll (loosen ts))).bare ↔
      RulesApart false ts) := by
  rw [bare_ofEvents_loosen]
  exact ⟨bare_ofEvents_eq_iff ts, bare_ofEvents_eq_iff ts⟩

/-- In `- a`, a thematic break and `b` in one tight item, the break comes first and the texts are one. -/
theorem break_joins_texts_around_it :
    ∃ ts, Markdown.events "- a\n  ***\n  b\n" = eventsAll ts ∧
      (Document.ofMarkdown "- a\n  ***\n  b\n").bare ≠ ⟨shapes (loosen ts)⟩ := by
  have e : Markdown.events "- a\n  ***\n  b\n" = eventsAll [list [.mk [inline (.leaf (.text "a") ⟨2, 3⟩),
    rule ⟨6, 10⟩, inline (.leaf (.text "b") ⟨12, 13⟩)] ⟨0, 14⟩] ⟨0, 14⟩] := by decide +kernel
  refine ⟨_, e, fun h => ?_⟩
  rw [Document.ofMarkdown, e, bare_ofEvents_eq_iff] at h
  simp [RulesApart, ItemRulesApart, InlineTree.isMarker] at h

end FlowTree
end CuratedList.Markdown
