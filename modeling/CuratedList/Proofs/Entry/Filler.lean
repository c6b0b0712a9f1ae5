import CuratedList.Check
import CuratedList.Proofs.Entry.Grammar

/-! # Filler before the link

Images and other nodes that are no link may stand before the link of an entry. The search passes over them
while two nodes follow. So they change nothing where a link and a description come behind them, and where no
link comes it ends at the last node but one, at which the entry is rejected (`filler_keeps_verdict`).
-/

namespace CuratedList
set_option autoImplicit false

/-- The first block of the entry is a paragraph of these nodes. -/
def Item.LeadsWith (item : Item) (nodes : List Inline) : Prop :=
  ∃ span blocks, item.children = .paragraph nodes span :: blocks

/-- The first node is plain text. -/
def StartsWithText (nodes : List Inline) : Prop := ∃ value span rest, nodes = .text value span :: rest

/-! ## What the search finds -/

theorem skipFiller_of_noLink {before : List Inline} {candidate : Inline}
    (noLink : ∀ node ∈ before ++ [candidate], node.isLinkLike = false) (last first : Inline)
    (rest : List Inline) (nodes : first :: rest = before ++ [candidate, last]) :
    Parts.skipFiller first rest = (candidate, [last]) := by
  have passed : ∀ node ∈ before, node.isLinkLike = false := fun node member =>
    noLink node (List.mem_append_left _ member)
  rw [skipFiller_append passed candidate last [] first rest nodes]
  rfl

theorem validateLink_of_noLink (cx : Context) {node : Inline} (noLink : node.isLinkLike = false) :
    validateLink cx node = .error ⟨.invalidLink, node.span⟩ := by
  cases node with
  | link url children span => cases noLink
  | linkReference children span => cases noLink
  | _ => rfl

/-! ## The verdict -/

section

variable (cx : Context) {item : Item}

/-- An entry that does not start with plain text is judged by what the search finds. -/
theorem validateEntry_of_skipFiller {nodes description : List Inline} {link : Inline}
    (leads : item.LeadsWith nodes) (some : nodes ≠ []) (noText : ¬ StartsWithText nodes)
    (found : ∀ first rest, first :: rest = nodes →
      Parts.skipFiller first rest = (link, description)) :
    validateEntry cx item =
      (validateLink cx link >>= fun _ => validateDescription cx description) := by
  obtain ⟨children, itemSpan⟩ := item
  obtain ⟨span, blocks, paragraph⟩ := leads
  obtain ⟨first, rest, rfl⟩ := List.exists_cons_of_ne_nil some
  obtain rfl : children = .paragraph (first :: rest) span :: blocks := paragraph
  have linked : ¬ ∃ value textSpan, first = .text value textSpan := by
    rintro ⟨value, textSpan, rfl⟩
    exact noText ⟨value, textSpan, rest, rfl⟩
  rw [validateEntry_linked cx first rest span itemSpan blocks linked, found first rest rfl]

theorem not_startsWithText_of_isLinkLike {link : Inline} (isLink : link.isLinkLike = true)
    (description : List Inline) : ¬ StartsWithText (link :: description) := by
  rintro ⟨value, span, rest, nodes⟩
  rw [(List.cons.inj nodes).1] at isLink
  cases isLink

/-- A link and a description are judged by themselves, with filler before them or not. -/
theorem validateEntry_of_filler {filler description : List Inline} {link : Inline}
    (leads : item.LeadsWith (filler ++ link :: description)) (noText : ¬ StartsWithText filler)
    (noLink : ∀ node ∈ filler, node.isLinkLike = false) (isLink : link.isLinkLike = true)
    (room : filler = [] ∨ description ≠ []) :
    validateEntry cx item =
      (validateLink cx link >>= fun _ => validateDescription cx description) := by
  apply validateEntry_of_skipFiller cx leads (by simp)
  · cases filler with
    | nil => exact not_startsWithText_of_isLinkLike isLink description
    | cons first filler =>
      rintro ⟨value, span, rest, nodes⟩
      exact noText ⟨value, span, filler, by rw [(List.cons.inj nodes).1]⟩
  · exact skipFiller_filler noLink isLink room

theorem validateEntry_of_noLink {before : List Inline} {candidate last : Inline}
    (leads : item.LeadsWith (before ++ [candidate, last]))
    (noText : ¬ StartsWithText (before ++ [candidate, last]))
    (noLink : ∀ node ∈ before ++ [candidate], node.isLinkLike = false) :
    validateEntry cx item = .error ⟨.invalidLink, candidate.span⟩ := by
  have verdict : validateEntry cx item =
      (validateLink cx candidate >>= fun _ => validateDescription cx [last]) := by
    apply validateEntry_of_skipFiller cx leads (by simp) noText
    exact skipFiller_of_noLink noLink last
  rw [verdict, validateLink_of_noLink cx (noLink candidate (by simp))]
  rfl

/-- Filler before a link and a description does not change the verdict. With no link before the last node, an
entry of two nodes or more is rejected at the last node but one. -/
theorem filler_keeps_verdict :
    (∀ {filler description : List Inline} {link : Inline} {filled bare : Item},
        filled.LeadsWith (filler ++ link :: description) → bare.LeadsWith (link :: description) →
        ¬ StartsWithText filler → (∀ node ∈ filler, node.isLinkLike = false) →
        link.isLinkLike = true → description ≠ [] →
          validateEntry cx filled = validateEntry cx bare) ∧
      ∀ {before : List Inline} {candidate last : Inline} {entry : Item},
        entry.LeadsWith (before ++ [candidate, last]) → ¬ StartsWithText (before ++ [candidate, last]) →
        (∀ node ∈ before ++ [candidate], node.isLinkLike = false) →
          validateEntry cx entry = .error ⟨.invalidLink, candidate.span⟩ := by
  constructor
  · intro filler description link filled bare filledLeads bareLeads noText noLink isLink some
    have alone : ¬ StartsWithText [] := by
      rintro ⟨value, span, rest, nodes⟩
      cases nodes
    calc validateEntry cx filled
      _ = (validateLink cx link >>= fun _ => validateDescription cx description) :=
        validateEntry_of_filler cx filledLeads noText noLink isLink (.inr some)
      _ = validateEntry cx bare :=
        (validateEntry_of_filler cx bareLeads alone (by simp) isLink (.inl rfl)).symm
  · intro before candidate last entry leads noText noLink
    exact validateEntry_of_noLink cx leads noText noLink

end

/-- The first word is lowercase, so both entries are rejected there; without the link the code span is taken
for one. -/
theorem filler_keeps_verdict_badged :
    ¬ StartsWithText [.image "logo.svg" "" ⟨2, 15⟩, .code "v1" ⟨15, 19⟩] ∧
    (∀ node ∈ [Inline.image "logo.svg" "" ⟨2, 15⟩, .code "v1" ⟨15, 19⟩], node.isLinkLike = false) ∧
    validateEntry (.standard .builtin)
        (.mk [.paragraph [.image "logo.svg" "" ⟨2, 15⟩, .code "v1" ⟨15, 19⟩,
          .link "https://example.com" [.text "Foo" ⟨20, 23⟩] ⟨19, 45⟩, .text " - a tool." ⟨45, 55⟩] ⟨2, 55⟩]
          ⟨0, 56⟩) =
      validateEntry (.standard .builtin)
        (.mk [.paragraph [.link "https://example.com" [.text "Foo" ⟨20, 23⟩] ⟨19, 45⟩,
          .text " - a tool." ⟨45, 55⟩] ⟨19, 55⟩, .list [] ⟨56, 60⟩] ⟨17, 60⟩) ∧
    validateEntry (.standard .builtin)
        (.mk [.paragraph [.image "logo.svg" "" ⟨2, 15⟩, .code "v1" ⟨15, 19⟩,
          .linkReference [.text "Foo" ⟨20, 23⟩] ⟨19, 24⟩] ⟨2, 24⟩] ⟨0, 25⟩) =
      .error ⟨.invalidLink, ⟨15, 19⟩⟩ := by
  have noText : ¬ StartsWithText [.image "logo.svg" "" ⟨2, 15⟩, .code "v1" ⟨15, 19⟩] := by
    simp [StartsWithText]
  have noLink : ∀ node ∈ [Inline.image "logo.svg" "" ⟨2, 15⟩, .code "v1" ⟨15, 19⟩],
      node.isLinkLike = false := by
    simp [Inline.isLinkLike]
  have leads : Item.LeadsWith (.mk [.paragraph [.image "logo.svg" "" ⟨2, 15⟩, .code "v1" ⟨15, 19⟩,
      .linkReference [.text "Foo" ⟨20, 23⟩] ⟨19, 24⟩] ⟨2, 24⟩] ⟨0, 25⟩)
      ([.image "logo.svg" "" ⟨2, 15⟩] ++
        [.code "v1" ⟨15, 19⟩, .linkReference [.text "Foo" ⟨20, 23⟩] ⟨19, 24⟩]) := ⟨_, _, rfl⟩
  obtain ⟨same, rejected⟩ := filler_keeps_verdict (.standard .builtin)
  refine ⟨noText, noLink, same ⟨_, _, rfl⟩ ⟨_, _, rfl⟩ noText noLink rfl (by simp), ?_⟩
  exact rejected leads (by simp [StartsWithText]) noLink

end CuratedList
