import CuratedList.Proofs.Document.Order
import CuratedList.Proofs.Document.Starts
import CuratedList.Proofs.Entry.Grammar

/-! # Where entries are rejected

A rule rejects at the span of the node that is at fault. `Item.sites` lists the spans that can be: an
empty item itself, or its first block, the nodes right in it if it is a paragraph, and the nodes right in
a link among these. In a document in order, all of them start in the item and not after any entry
inside it.
-/

namespace CuratedList
set_option autoImplicit false

/-! ## Sites -/

/-- The spans at which a link or another node of an entry can be at fault. -/
def Inline.sites : Inline → List Span
  | .link _ cs s => s :: cs.map Inline.span
  | n => [n.span]

/-- The spans at which the first block of an entry can be at fault. -/
def Block.sites : Block → List Span
  | .paragraph cs s => s :: cs.flatMap Inline.sites
  | b => [b.span]

/-- The spans at which an entry can be rejected. -/
def Item.sites : Item → List Span
  | .mk [] s => [s]
  | .mk (b :: _) _ => b.sites

theorem Inline.span_mem_sites (n : Inline) : n.span ∈ n.sites := by
  cases n <;> simp [Inline.sites, Inline.span]

theorem Inline.cases_of_mem_sites {n : Inline} {s : Span} (member : s ∈ n.sites) :
    s = n.span ∨ ∃ child ∈ n.children, s = child.span := by
  cases n with
  | link url children span =>
    rcases List.mem_cons.1 member with rfl | inside
    · exact .inl rfl
    · obtain ⟨child, here, rfl⟩ := List.mem_map.1 inside
      exact .inr ⟨child, here, rfl⟩
  | _ => exact .inl (List.mem_singleton.1 member)

theorem Block.cases_of_mem_sites {b : Block} {s : Span} (member : s ∈ b.sites) :
    s = b.span ∨ ∃ nodes span, b = .paragraph nodes span ∧ ∃ n ∈ nodes, s ∈ n.sites := by
  cases b with
  | paragraph nodes span =>
    rcases List.mem_cons.1 member with rfl | inside
    · exact .inl rfl
    · exact .inr ⟨nodes, span, rfl, List.mem_flatMap.1 inside⟩
  | _ => exact .inl (List.mem_singleton.1 member)

theorem Item.StartsIn.site {p : Nat → Prop} {i : Item} (h : i.StartsIn p) {s : Span}
    (member : s ∈ i.sites) : p s.start := by
  obtain ⟨children, span⟩ := i
  cases children with
  | nil =>
    rw [List.mem_singleton.1 member]
    exact h.1
  | cons b bs =>
    rcases Block.cases_of_mem_sites member with rfl | ⟨nodes, at', rfl, n, here, site⟩
    · exact h.2.1.span
    · have node : n.StartsIn p := (Inline.allStartIn_iff nodes).1 h.2.1.2 n here
      rcases Inline.cases_of_mem_sites site with rfl | ⟨child, inside, rfl⟩
      · exact node.span
      · exact ((Inline.allStartIn_iff _).1 ((Inline.startsIn_iff n).1 node).2 child inside).span

/-! ## Rejections -/

/-- If `x` is a rejection, then it is at one of `spans`. -/
def RejectsAt {α : Type} (spans : List Span) (x : Except Violation α) : Prop :=
  ∀ v, x = .error v → v.span ∈ spans

namespace RejectsAt

variable {α β : Type} {spans : List Span}

theorem ok (a : α) : RejectsAt spans (.ok a) := by
  intro v h
  cases h

theorem reject (kind : ViolationKind) {span : Span} (member : span ∈ spans) :
    RejectsAt spans (reject kind span : Except Violation α) := by
  intro v h
  cases h
  exact member

theorem bind {x : Except Violation α} {f : α → Except Violation β} (first : RejectsAt spans x)
    (next : ∀ a, x = .ok a → RejectsAt spans (f a)) : RejectsAt spans (x >>= f) := by
  intro v h
  cases x with
  | error u =>
    cases h
    exact first v rfl
  | ok a => exact next a rfl v h

theorem mono {x : Except Violation α} {wider : List Span} (h : RejectsAt spans x)
    (sub : spans ⊆ wider) : RejectsAt wider x := fun v e => sub (h v e)

end RejectsAt

/-! ## The rules -/

theorem validateLink_rejectsAt (cx : Context) (node : Inline) :
    RejectsAt node.sites (validateLink cx node) := by
  cases node with
  | linkReference children span => exact .ok ()
  | link url children span =>
    have here : span ∈ (Inline.link url children span).sites := List.mem_cons_self
    rw [validateLink]
    split
    · exact .reject _ here
    · split
      · exact .reject _ here
      · split
        next child found =>
          have member := List.mem_of_find?_eq_some found
          exact .reject _ (List.mem_cons_of_mem _ (List.mem_map_of_mem member))
        next => exact .ok ()
  | _ => exact .reject _ (List.mem_singleton.2 rfl)

theorem checkFirstWord_cases (cx : Context) (dash : List Char) (span : Span) :
    checkFirstWord cx dash span = .ok () ∨ checkFirstWord cx dash span = reject .emptyStart span ∨
      checkFirstWord cx dash span = reject .invalidCasing span := by
  rw [checkFirstWord]
  split
  · exact .inr (.inl rfl)
  · split
    · exact .inl rfl
    · exact .inr (.inr rfl)

theorem checkFirstWord_rejectsAt (cx : Context) (dash : List Char) (span : Span) :
    RejectsAt [span] (checkFirstWord cx dash span) := by
  have here : span ∈ [span] := List.mem_singleton.2 rfl
  rcases checkFirstWord_cases cx dash span with passed | start | casing
  · rw [passed]
    exact .ok ()
  · rw [start]
    exact .reject _ here
  · rw [casing]
    exact .reject _ here

theorem checkSeparator_rejectsAt (cx : Context) (first : Inline) (rest : List Inline)
    (text : List Char) : RejectsAt [first.span] (checkSeparator cx first rest text) := by
  rw [checkSeparator]
  split
  · exact .ok _
  · split <;> exact .reject _ (List.mem_singleton.2 rfl)

theorem checkEnding_cases (cx : Context) (kept : List Inline) (hasBadges : Bool) (last : Inline) :
    checkEnding cx kept hasBadges last = .ok () ∨
      checkEnding cx kept hasBadges last = reject .missingPunctuation last.span := by
  rw [checkEnding]
  split
  · exact .inr rfl
  · split
    · exact .inl rfl
    · dsimp only
      generalize (if hasBadges = true then _ else _ : Bool) = valid
      cases valid with
      | true => exact .inl rfl
      | false => exact .inr rfl

theorem checkEnding_rejectsAt (cx : Context) (kept : List Inline) (hasBadges : Bool)
    (last : Inline) : RejectsAt [last.span] (checkEnding cx kept hasBadges last) := by
  rcases checkEnding_cases cx kept hasBadges last with passed | rejected
  · rw [passed]
    exact .ok ()
  · rw [rejected]
    exact .reject _ (List.mem_singleton.2 rfl)

theorem checkContent_cases (cx : Context) (kept : List Inline) (dash : List Char) (span : Span) :
    checkContent cx kept dash span = .ok () ∨
      checkContent cx kept dash span = checkFirstWord cx dash span ∨
        ∃ node ∈ kept, checkContent cx kept dash span = reject .invalidMarkup node.span := by
  rw [checkContent]
  split
  · exact .inr (.inl rfl)
  · split
    next node found => exact .inr (.inr ⟨node, List.mem_of_find?_eq_some found, rfl⟩)
    next =>
      split
      · exact .inr (.inl rfl)
      · exact .inl rfl

theorem checkContent_rejectsAt (cx : Context) (kept : List Inline) (dash : List Char)
    (span : Span) : RejectsAt (span :: kept.map Inline.span) (checkContent cx kept dash span) := by
  rcases checkContent_cases cx kept dash span with passed | word | ⟨node, member, markup⟩
  · rw [passed]
    exact .ok ()
  · rw [word]
    exact (checkFirstWord_rejectsAt cx dash span).mono (by simp)
  · rw [markup]
    exact .reject _ (List.mem_cons_of_mem _ (List.mem_map_of_mem member))

theorem validateDescription_rejectsAt (cx : Context) (description : List Inline) :
    RejectsAt (description.map Inline.span) (validateDescription cx description) := by
  cases description with
  | nil => exact .ok ()
  | cons first rest =>
    have here : first.span ∈ (first :: rest).map Inline.span := List.mem_cons_self
    by_cases exempt : isSpecialCase cx (Inline.plainTextAll (first :: rest)).toList = true
    · simp only [validateDescription, exempt, if_true]
      exact .ok ()
    · simp only [validateDescription, exempt, Bool.false_eq_true, if_false]
      refine .bind ((checkSeparator_rejectsAt cx first rest _).mono (by simp)) fun dash _ => ?_
      rcases exists_last_kept (first :: rest) with
        only | ⟨before, last, badges, split, allBadges, noBadge⟩
      · rw [splitBadges_of_forall only]
        exact .reject _ here
      · rw [split] at here ⊢
        rw [splitBadges_append allBadges noBadge]
        simp only [List.getLast?_append, List.getLast?_singleton, Option.some_or]
        refine .bind ((checkEnding_rejectsAt cx _ _ last).mono (by simp)) fun _ _ => ?_
        refine (checkContent_rejectsAt cx _ dash first.span).mono (List.cons_subset.2 ⟨here, ?_⟩)
        simp

/-- An entry is rejected at one of its sites. -/
theorem validateEntry_rejectsAt (cx : Context) (item : Item) :
    RejectsAt item.sites (validateEntry cx item) := by
  obtain ⟨children, itemSpan⟩ := item
  cases children with
  | nil => exact .reject _ (List.mem_singleton.2 rfl)
  | cons block blocks =>
    cases block with
    | paragraph nodes span =>
      cases nodes with
      | nil => exact .reject _ List.mem_cons_self
      | cons first rest =>
        have inside (n : Inline) (member : n ∈ first :: rest) :
            n.sites ⊆ (Item.mk (.paragraph (first :: rest) span :: blocks) itemSpan).sites :=
          fun s here => List.mem_cons_of_mem _ (List.mem_flatMap.2 ⟨n, member, here⟩)
        by_cases isText : ∃ value textSpan, first = .text value textSpan
        · obtain ⟨value, textSpan, rfl⟩ := isText
          exact .ok ()
        · obtain ⟨filler, nodes, -⟩ := skipFiller_split first rest
          rw [validateEntry_linked cx first rest span itemSpan blocks isText]
          refine .bind ((validateLink_rejectsAt cx _).mono (inside _ ?_)) fun _ _ => ?_
          · rw [nodes]
            simp
          · refine (validateDescription_rejectsAt cx _).mono fun s here => ?_
            obtain ⟨n, member, rfl⟩ := List.mem_map.1 here
            refine inside n ?_ n.span_mem_sites
            rw [nodes]
            exact List.mem_append_right _ (List.mem_cons_of_mem _ member)
    | _ => exact .reject _ (List.mem_singleton.2 rfl)

/-! ## Sites in order -/

theorem Inline.InOrder.site {n : Inline} (h : n.InOrder) {s : Span} (member : s ∈ n.sites) :
    s.Within n.span ∧ s.start ≤ s.stop := by
  obtain ⟨le, children⟩ := (Inline.inOrder_iff n).1 h
  rcases Inline.cases_of_mem_sites member with rfl | ⟨child, here, rfl⟩
  · exact ⟨.refl _, le⟩
  · obtain ⟨within, inOrder⟩ := ((Inline.allInOrder_iff ..).1 children).1 child here
    exact ⟨within, ((Inline.inOrder_iff child).1 inOrder).1⟩

theorem Block.InOrder.site {b : Block} (h : b.InOrder) {s : Span} (member : s ∈ b.sites) :
    s.Within b.span ∧ s.start ≤ s.stop := by
  rcases Block.cases_of_mem_sites member with rfl | ⟨nodes, span, rfl, n, here, site⟩
  · exact ⟨.refl _, h.start_le_stop⟩
  · obtain ⟨within, inOrder⟩ := ((Inline.allInOrder_iff ..).1 h.2).1 n here
    obtain ⟨inside, le⟩ := inOrder.site site
    exact ⟨inside.trans within, le⟩

/-- An entry is rejected inside its own span. -/
theorem Item.InOrder.site {i : Item} (h : i.InOrder) {s : Span} (member : s ∈ i.sites) :
    s.Within i.span ∧ s.start ≤ s.stop := by
  obtain ⟨children, span⟩ := i
  cases children with
  | nil =>
    rw [List.mem_singleton.1 member]
    exact ⟨.refl _, h.1⟩
  | cons b bs =>
    obtain ⟨inside, le⟩ := h.2.1.2.site member
    exact ⟨inside.trans h.2.1.1, le⟩

/-- An entry is rejected before all entries inside it, or where one of them starts. -/
theorem Item.InOrder.site_start_le {i e : Item} (h : i.InOrder) {s : Span} (site : s ∈ i.sites)
    (inside : e ∈ i.inner) : s.start ≤ e.span.start := by
  obtain ⟨children, span⟩ := i
  cases children with
  | nil => cases inside
  | cons b bs =>
    rcases List.mem_append.1 inside with inFirst | inLater
    · -- the first block holds entries, so it is no paragraph and its only site is its start
      have sites : b.sites = [b.span] := by
        cases b with
        | paragraph => cases inFirst
        | _ => rfl
      have site : s ∈ b.sites := site
      rw [sites] at site
      rw [List.mem_singleton.1 site]
      exact (Block.InOrder.entry b h.2.1.2 inFirst).1.1
    · obtain ⟨c, member, inBlock⟩ := Block.mem_entriesAll.1 inLater
      have apart : b.span.stop ≤ c.span.start :=
        (h.2.2.1 c member).stop_le_start (Block.isLeaf_of_mem_entries inBlock)
      have inOrder : c.InOrder := (((Block.allInOrder_iff ..).1 h.2.2.2).1 c member).2
      obtain ⟨within, le⟩ := h.2.1.2.site site
      calc s.start ≤ s.stop := le
        _ ≤ b.span.stop := within.2
        _ ≤ c.span.start := apart
        _ ≤ e.span.start := (Block.InOrder.entry c inOrder inBlock).1.1

end CuratedList
