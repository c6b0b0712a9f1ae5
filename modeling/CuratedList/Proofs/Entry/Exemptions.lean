import CuratedList.Check
import CuratedList.Proofs.Entry.Grammar
import CuratedList.Proofs.Text.Emoji

/-! # Exempt descriptions

Two kinds of description pass without another rule: emoji alone, and a single parenthetical, with emoji
around it or not. `Exempt` says so of the text of a description, without the searches that find emoji
and parentheses. The text is all that counts, whatever nodes it is spread over
(`exempt_descriptions_pass`).

A text has no backticks, so what a code span says counts like plain text. A description of badges alone
is rejected as such exactly if its text is not exempt (`badges_rejected_iff_not_exempt`); one code span
with an emoji in it passes.
-/

namespace CuratedList
set_option autoImplicit false

open Text

/-! ## The forms -/

/-- A parenthetical, then only white space. -/
def Parenthesised (text : List Char) : Prop :=
  ∃ body trail, text = '(' :: (body ++ ')' :: trail) ∧ body ≠ [] ∧ ')' ∉ body ∧
    ∀ c ∈ trail, isBlank c = true

/-- The text is `lead`, all of it white space, and a parenthetical. -/
def ParenthesisedAfter (lead text : List Char) : Prop :=
  ∃ rest, text = lead ++ rest ∧ (∀ c ∈ lead, isBlank c = true) ∧ Parenthesised rest

/-- The forms of an exempt text. -/
inductive ExemptForm (cx : Context) (text : List Char) : Prop
  | emojiOnly (blank : ∀ c ∈ cx.emoji.strip text, isBlank c = true)
  | parenthetical (lead : List Char) (short : lead.length ≤ 1)
      (inside : ParenthesisedAfter lead text)
  | parentheticalWithEmoji (lead : List Char) (some : cx.emoji.strip text ≠ text)
      (inside : ParenthesisedAfter lead (cx.emoji.strip text))

/-- A text that no rule but this looks at: it has one of the forms, and does not start with the
separator. -/
structure Exempt (cx : Context) (text : List Char) : Prop where
  noSeparator : ¬ dashSeparator <+: text
  form : ExemptForm cx text

/-! ## Parentheticals -/

theorem isParenthetical_iff (text : List Char) :
    isParenthetical text = true ↔ Parenthesised text := by
  constructor
  · intro found
    unfold isParenthetical at found
    split at found
    next cs =>
      rw [Bool.and_eq_true] at found
      obtain ⟨body, found⟩ := found
      split at found
      next close trail dropped =>
        have closing : close = ')' := by
          have h := List.head?_dropWhile_not (· != ')') cs
          rw [dropped] at h
          simpa using h
        have split := List.takeWhile_append_dropWhile (p := (· != ')')) (l := cs)
        rw [dropped, closing] at split
        refine ⟨cs.takeWhile (· != ')'), trail, by rw [split], by simpa using body, ?_, ?_⟩
        · intro member
          have := List.mem_takeWhile_imp member
          simp at this
        · exact List.all_eq_true.1 found
      next => cases found
    next => cases found
  · rintro ⟨body, trail, rfl, some, noClose, blank⟩
    have open' : ∀ c ∈ body, (c != ')') = true := by
      intro c member
      rw [bne_iff_ne]
      rintro rfl
      exact noClose member
    have taken : (body ++ ')' :: trail).takeWhile (· != ')') = body := by
      rw [List.takeWhile_append_of_pos open']
      simp
    have dropped : (body ++ ')' :: trail).dropWhile (· != ')') = ')' :: trail := by
      rw [List.dropWhile_append_of_pos open']
      simp
    simp only [isParenthetical, taken, dropped, allBlank, Bool.and_eq_true]
    exact ⟨by simpa using some, List.all_eq_true.2 blank⟩

theorem Parenthesised.head {text : List Char} (h : Parenthesised text) :
    ∃ cs, text = '(' :: cs := by
  obtain ⟨body, trail, rfl, -⟩ := h
  exact ⟨_, rfl⟩

theorem parenthesised_dropOneBlank_iff (text : List Char) :
    Parenthesised (dropOneBlank text) ↔ ∃ lead, lead.length ≤ 1 ∧ ParenthesisedAfter lead text := by
  have noBlank : isBlank '(' = false := by decide
  constructor
  · intro inside
    cases text with
    | nil => exact ⟨[], by simp, [], rfl, by simp, inside⟩
    | cons c cs =>
      rw [dropOneBlank] at inside
      split at inside
      next blank => exact ⟨[c], by simp, cs, rfl, by simpa using blank, inside⟩
      next => exact ⟨[], by simp, c :: cs, rfl, by simp, inside⟩
  · rintro ⟨lead, short, rest, rfl, blank, inside⟩
    match lead, short with
    | [], _ =>
      obtain ⟨cs, rfl⟩ := inside.head
      rw [List.nil_append, dropOneBlank, noBlank]
      exact inside
    | [c], _ =>
      have blank : isBlank c = true := blank c List.mem_cons_self
      rw [List.singleton_append, dropOneBlank, blank]
      exact inside

theorem parenthesised_trimStart_iff (text : List Char) :
    Parenthesised (trimStart text) ↔ ∃ lead, ParenthesisedAfter lead text := by
  constructor
  · intro inside
    refine ⟨text.takeWhile isBlank, trimStart text, ?_, fun c => List.mem_takeWhile_imp, inside⟩
    exact List.takeWhile_append_dropWhile.symm
  · rintro ⟨lead, rest, rfl, blank, inside⟩
    obtain ⟨cs, rfl⟩ := inside.head
    have trimmed : trimStart (lead ++ '(' :: cs) = '(' :: cs := by
      rw [trimStart, List.dropWhile_append_of_pos blank]
      exact List.dropWhile_cons_of_neg (by decide)
    rw [trimmed]
    exact inside

/-! ## Exempt texts -/

/-- What the tests accept, form by form. -/
theorem isSpecialCase_iff_forms (cx : Context) (text : List Char) :
    isSpecialCase cx text = true ↔
      ¬ dashSeparator <+: text ∧
        ((∀ c ∈ cx.emoji.strip text, isBlank c = true) ∨
          (∃ lead, lead.length ≤ 1 ∧ ParenthesisedAfter lead text) ∨
            cx.emoji.strip text ≠ text ∧ ∃ lead, ParenthesisedAfter lead (cx.emoji.strip text)) := by
  have removed : ((cx.emoji.strip text).length != text.length) = true ↔
      cx.emoji.strip text ≠ text := by
    rw [bne_iff_ne, Ne, Ne, not_iff_not]
    exact ⟨(strip_sublist cx.emoji text).eq_of_length, congrArg List.length⟩
  have blank : allBlank (cx.emoji.strip text) = true ↔
      ∀ c ∈ cx.emoji.strip text, isBlank c = true := List.all_eq_true
  rw [← parenthesised_dropOneBlank_iff, ← parenthesised_trimStart_iff, isSpecialCase]
  by_cases separator : dashSeparator <+: text
  · simp [separator]
  · simp [separator, ← removed, ← isParenthetical_iff, ← blank, or_assoc]

/-- The tests accept exactly the exempt texts. -/
theorem isSpecialCase_iff (cx : Context) (text : List Char) :
    isSpecialCase cx text = true ↔ Exempt cx text := by
  rw [isSpecialCase_iff_forms]
  constructor
  · rintro ⟨noSeparator, blank | ⟨lead, short, inside⟩ | ⟨some, lead, inside⟩⟩
    · exact ⟨noSeparator, .emojiOnly blank⟩
    · exact ⟨noSeparator, .parenthetical lead short inside⟩
    · exact ⟨noSeparator, .parentheticalWithEmoji lead some inside⟩
  · rintro ⟨noSeparator, form⟩
    refine ⟨noSeparator, ?_⟩
    cases form with
    | emojiOnly blank => exact .inl blank
    | parenthetical lead short inside => exact .inr (.inl ⟨lead, short, inside⟩)
    | parentheticalWithEmoji lead some inside => exact .inr (.inr ⟨some, lead, inside⟩)

/-! ## Exempt descriptions -/

/-- The exempt texts are the emoji alone and the parentheticals, with emoji or not, that do not start with
the separator. A description with such a text passes, whatever nodes it is made of. -/
theorem exempt_descriptions_pass (cx : Context) (text : List Char) :
    (isSpecialCase cx text = true ↔
        ¬ dashSeparator <+: text ∧
          ((∀ c ∈ cx.emoji.strip text, isBlank c = true) ∨
            (∃ lead, lead.length ≤ 1 ∧ ParenthesisedAfter lead text) ∨
              (∃ cs, Piece.emoji cs ∈ cx.emoji.pieces text ∧ cs ≠ []) ∧
                ∃ lead, ParenthesisedAfter lead (cx.emoji.strip text))) ∧
      (isSpecialCase cx text = true → ∀ description : List Inline,
        (Inline.plainTextAll description).toList = text →
          validateDescription cx description = .ok ()) := by
  constructor
  · rw [← strip_ne_iff]
    exact isSpecialCase_iff_forms cx text
  · rintro exempt description rfl
    exact (validateDescription_eq_ok_iff cx description).2 (.special exempt)

/-- Struck out text, a line break and no mark at the end: none of it matters in a parenthetical. -/
theorem exempt_descriptions_pass_struck :
    isSpecialCase (.standard .builtin) " 🎉 (old\n)".toList = true ∧
    validateDescription (.standard .builtin) [.text " " ⟨26, 27⟩, .image "party.svg" "🎉" ⟨27, 42⟩,
      .text " (" ⟨42, 44⟩, .delete [.code "old" ⟨46, 51⟩, .lineBreak ⟨51, 52⟩] ⟨44, 54⟩,
      .text ")" ⟨54, 55⟩] = .ok () := by
  have exempt : isSpecialCase (.standard .builtin) " 🎉 (old\n)".toList = true := by decide +kernel
  exact ⟨exempt, (exempt_descriptions_pass _ _).2 exempt _ (by decide +kernel)⟩

/-- A description that does not open with a dash passes only if its text is exempt. -/
theorem validateDescription_eq_ok_iff_of_noDash (cx : Context) {description : List Inline}
    {text : List Char} (reads : (Inline.plainTextAll description).toList = text)
    (noDash : (trimStart text).head? ≠ some '-') :
    validateDescription cx description = .ok () ↔ isSpecialCase cx text = true := by
  rw [validateDescription_eq_ok_iff]
  constructor
  · intro proper
    cases proper with
    | none =>
      have empty : text = [] := by simpa [Inline.plainTextAll] using reads.symm
      subst empty
      have nothing : cx.emoji.strip [] = [] := List.sublist_nil.1 (strip_sublist cx.emoji [])
      simp [isSpecialCase, dashSeparator, nothing, allBlank]
    | special exempt => rwa [reads] at exempt
    | regular parts =>
      rename_i dash span before badges last
      obtain ⟨rest, rfl⟩ := List.head?_eq_some_iff.1 parts.head
      exfalso
      apply noDash
      rcases parts.opens with ⟨tail, opens⟩ | ⟨whole, head, -⟩
      · rw [← reads, Inline.plainTextAll, Inline.plainText, String.toList_append, ← opens]
        rfl
      · rw [← reads, ← whole]
        exact head
  · intro exempt
    apply ProperDescription.special
    rwa [reads]

/-! ## Badges alone -/

section

variable (cx : Context) {first : Inline} {rest : List Inline}

/-- A badge does not open a description: its text, if it is a text, holds no dash. -/
theorem separatorText?_of_isBadge (badge : isBadge first = true) (text : List Char) :
    separatorText? cx first text = none := by
  rw [Option.eq_none_iff_forall_ne_some]
  intro dash opened
  obtain ⟨value, isText, rfl, opens⟩ := (separatorText?_eq_some_iff ..).1 opened
  have blank : ∀ c ∈ value.toList, isBlank c = true := by
    cases first with
    | text content span =>
      obtain rfl : content = value := by simpa [Inline.asText] using isText
      exact List.all_eq_true.1 badge
    | _ => simp [Inline.asText] at isText
  rcases opens with ⟨tail, whole⟩ | ⟨-, head, -⟩
  · have dash := blank '-' (by rw [← whole]; simp [dashSeparator])
    revert dash
    decide
  · have nothing : trimStart value.toList = [] := List.dropWhile_eq_nil_iff.2 blank
    rw [nothing] at head
    cases head

theorem checkSeparator_of_badges (allBadges : ∀ node ∈ first :: rest, isBadge node = true)
    (text : List Char) :
    checkSeparator cx first rest text = reject .onlyBadges first.span := by
  have all : (first :: rest).all isBadge = true := List.all_eq_true.2 allBadges
  rw [checkSeparator, separatorText?_of_isBadge cx (allBadges first List.mem_cons_self)]
  simp only [all, if_true]

/-- A description of badges alone is rejected as such if its text is not exempt, and passes if it is. -/
theorem badges_rejected_iff_not_exempt
    (allBadges : ∀ node ∈ first :: rest, isBadge node = true) :
    (validateDescription cx (first :: rest) = .error ⟨.onlyBadges, first.span⟩ ↔
        ¬ Exempt cx (Inline.plainTextAll (first :: rest)).toList) ∧
      (validateDescription cx (first :: rest) = .ok () ↔
        Exempt cx (Inline.plainTextAll (first :: rest)).toList) := by
  rw [← isSpecialCase_iff]
  cases exempt : isSpecialCase cx (Inline.plainTextAll (first :: rest)).toList with
  | true =>
    have passes : validateDescription cx (first :: rest) = .ok () := by
      simp only [validateDescription, exempt, if_true]
    simp [passes]
  | false =>
    have rejected : validateDescription cx (first :: rest) = .error ⟨.onlyBadges, first.span⟩ := by
      simp only [validateDescription, exempt, Bool.false_eq_true, if_false,
        checkSeparator_of_badges cx allBadges]
      rfl
    simp [rejected]

end

/-- Here the parenthetical is not alone, so it exempts nothing. -/
theorem badges_rejected_iff_not_exempt_several :
    (∀ node ∈ [Inline.text "\t" ⟨26, 27⟩, .code "v2" ⟨27, 31⟩, .text " " ⟨31, 32⟩,
      .code "(beta)" ⟨32, 40⟩], isBadge node = true) ∧
    validateDescription (.standard .builtin) [.text "\t" ⟨26, 27⟩, .code "v2" ⟨27, 31⟩,
      .text " " ⟨31, 32⟩, .code "(beta)" ⟨32, 40⟩] = .error ⟨.onlyBadges, ⟨26, 27⟩⟩ := by
  have allBadges : ∀ node ∈ [Inline.text "\t" ⟨26, 27⟩, .code "v2" ⟨27, 31⟩, .text " " ⟨31, 32⟩,
      .code "(beta)" ⟨32, 40⟩], isBadge node = true := by
    simp only [List.forall_mem_cons]
    decide
  refine ⟨allBadges, (badges_rejected_iff_not_exempt _ allBadges).1.2 ?_⟩
  rw [← isSpecialCase_iff]
  decide +kernel

/-- A code span that holds an emoji is a badge, and alone it is no reason to reject. -/
theorem emoji_badge_is_accepted :
    ¬ ∀ (cx : Context) (first : Inline) (rest : List Inline),
      (∀ node ∈ first :: rest, isBadge node = true) →
      (∃ value span, Inline.code value span ∈ first :: rest) →
      validateDescription cx (first :: rest) = .error ⟨.onlyBadges, first.span⟩ := by
  intro rejected
  have accepted : validateDescription (.standard .builtin) [.code "🔥" ⟨26, 32⟩] = .ok () := by
    decide +kernel
  have h := rejected (.standard .builtin) (.code "🔥" ⟨26, 32⟩) [] (by simp [isBadge])
    ⟨"🔥", ⟨26, 32⟩, List.mem_cons_self⟩
  rw [accepted] at h
  cases h

end CuratedList
