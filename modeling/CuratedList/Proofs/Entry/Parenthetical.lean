import CuratedList.Proofs.Entry.Exemptions

/-! # A parenthetical among emoji

A parenthetical may have emoji around it. The test for this form removes the emoji of the whole text, and
so those between the parentheses too: what is exempt is a parenthetical in which something else is left
(`padded_parenthetical_exempt_iff`). With emoji alone in it the parenthetical is exempt by itself, and loses
this when an emoji stands next to it (`emoji_in_parentheses_is_rejected`).
-/

namespace CuratedList
set_option autoImplicit false

open Text

/-! ## The first of a kind -/

/-- The part of a text before the first `d` is the only one without it. -/
theorem parts_unique {d : Char} {xs ys front back : List Char}
    (same : xs ++ d :: ys = front ++ d :: back) (noneLeft : d ∉ xs) (noneFront : d ∉ front) :
    xs = front ∧ ys = back := by
  induction xs generalizing front with
  | nil =>
    cases front with
    | nil => exact ⟨rfl, (List.cons.inj same).2⟩
    | cons c front =>
      obtain rfl : d = c := (List.cons.inj same).1
      exact absurd List.mem_cons_self noneFront
  | cons c xs ih =>
    cases front with
    | nil =>
      obtain rfl : c = d := (List.cons.inj same).1
      exact absurd List.mem_cons_self noneLeft
    | cons b front =>
      obtain ⟨rfl, rest⟩ := List.cons.inj same
      have left : d ∉ xs := fun member => noneLeft (List.mem_cons_of_mem c member)
      have right : d ∉ front := fun member => noneFront (List.mem_cons_of_mem c member)
      obtain ⟨rfl, rfl⟩ := ih rest left right
      exact ⟨rfl, rfl⟩

/-- A text has a parenthetical after white space only where its first parentheses stand. -/
theorem parenthesisedAfter_iff {front body trail : List Char} (noOpen : '(' ∉ front)
    (noClose : ')' ∉ body) (lead : List Char) :
    ParenthesisedAfter lead (front ++ '(' :: (body ++ ')' :: trail)) ↔
      lead = front ∧ (∀ c ∈ front, isBlank c = true) ∧ body ≠ [] ∧ ∀ c ∈ trail, isBlank c = true := by
  constructor
  · rintro ⟨_, text, blankLead, inner, after, rfl, some, innerNoClose, blankAfter⟩
    have leadNoOpen : '(' ∉ lead := by
      intro member
      have blank := blankLead '(' member
      revert blank
      decide
    obtain ⟨rfl, rest⟩ := parts_unique text noOpen leadNoOpen
    obtain ⟨rfl, rfl⟩ := parts_unique rest noClose innerNoClose
    exact ⟨rfl, blankLead, some, blankAfter⟩
  · rintro ⟨rfl, blankLead, some, blankTrail⟩
    exact ⟨_, rfl, blankLead, body, trail, rfl, some, noClose, blankTrail⟩

/-- With no dash before its first parenthesis a text does not open with a dash. -/
theorem head?_trimStart_ne_dash {front : List Char} (noDash : '-' ∉ front) (cs : List Char) :
    (trimStart (front ++ '(' :: cs)).head? ≠ some '-' := by
  unfold trimStart
  induction front with
  | nil =>
    have opening : ('(' :: cs).dropWhile isBlank = '(' :: cs :=
      List.dropWhile_cons_of_neg (by decide)
    rw [List.nil_append, opening, List.head?_cons]
    decide
  | cons c front ih =>
    rw [List.cons_append]
    by_cases blank : isBlank c = true
    · rw [List.dropWhile_cons_of_pos blank]
      exact ih fun member => noDash (List.mem_cons_of_mem c member)
    · rw [List.dropWhile_cons_of_neg blank, List.head?_cons]
      intro dash
      apply noDash
      rw [← Option.some.inj dash]
      exact List.mem_cons_self

/-! ## Emoji and white space around -/

/-- Around a parenthetical, `before` and `after` hold white space and pictographic characters only, and at
least one of these. -/
structure Padding (before after : List Char) : Prop where
  padding : ∀ c ∈ before ++ after, isBlank c = true ∨ isPictographic c = true
  picture : ∃ c ∈ before ++ after, isPictographic c = true

theorem padding_iff (before after : List Char) :
    Padding before after ↔
      ((before ++ after).all fun c => isBlank c || isPictographic c) = true ∧
        (before ++ after).any isPictographic = true := by
  rw [List.all_eq_true, List.any_eq_true]
  constructor
  · rintro ⟨padding, picture⟩
    exact ⟨fun c member => Bool.or_eq_true_iff.2 (padding c member), picture⟩
  · rintro ⟨padding, picture⟩
    exact ⟨fun c member => Bool.or_eq_true_iff.1 (padding c member), picture⟩

instance (before after : List Char) : Decidable (Padding before after) :=
  decidable_of_iff _ (padding_iff before after).symm

section

variable {before after : List Char}

theorem Padding.not_mem (padding : Padding before after) {d : Char} (inked : isBlank d = false)
    (noPicture : isPictographic d = false) : d ∉ before ++ after := by
  intro member
  rcases padding.padding d member with blank | picture
  · rw [inked] at blank
    cases blank
  · rw [noPicture] at picture
    cases picture

/-- Only white space is left of what stands around. -/
theorem Padding.isBlank_of_mem_strip (padding : Padding before after) {part : List Char}
    (within : part ⊆ before ++ after) : ∀ c ∈ unicodeEmoji.strip part, isBlank c = true := by
  intro c left
  have member : c ∈ before ++ after := within ((strip_sublist unicodeEmoji part).subset left)
  apply (padding.padding c member).resolve_right
  rw [isPictographic_of_mem_strip left]
  exact Bool.false_ne_true

/-- The white space around is not all there is. -/
theorem Padding.not_blank (padding : Padding before after) :
    ¬ ((∀ c ∈ before, isBlank c = true) ∧ ∀ c ∈ after, isBlank c = true) := by
  rintro ⟨blankBefore, blankAfter⟩
  obtain ⟨c, member, picture⟩ := padding.picture
  have blank : isBlank c = true := (List.mem_append.1 member).elim (blankBefore c) (blankAfter c)
  rw [isBlank_of_isPictographic picture] at blank
  cases blank

theorem strip_parenthetical (body : List Char) :
    unicodeEmoji.strip (before ++ '(' :: (body ++ ')' :: after)) =
      unicodeEmoji.strip before ++ '(' :: (unicodeEmoji.strip body ++ ')' :: unicodeEmoji.strip after) := by
  have opening : Bystander '(' := by constructor <;> decide
  have closing : Bystander ')' := by constructor <;> decide
  rw [strip_append_cons opening, strip_append_cons closing]

theorem exempt_iff_of_padding {cx : Context} (unicode : cx.emoji = unicodeEmoji)
    (padding : Padding before after) {body : List Char} (noClose : ')' ∉ body) :
    Exempt cx (before ++ '(' :: (body ++ ')' :: after)) ↔ unicodeEmoji.strip body ≠ [] := by
  have noOpen : '(' ∉ before := fun member =>
    padding.not_mem (by decide) (by decide) (List.mem_append_left after member)
  have noDash : '-' ∉ before := fun member =>
    padding.not_mem (by decide) (by decide) (List.mem_append_left after member)
  have blankBefore := padding.isBlank_of_mem_strip (List.subset_append_left before after)
  have blankAfter := padding.isBlank_of_mem_strip (List.subset_append_right before after)
  -- what is left of the text is a parenthetical again, but for what is left in it
  have left : unicodeEmoji.strip (before ++ '(' :: (body ++ ')' :: after)) =
      unicodeEmoji.strip before ++ '(' :: (unicodeEmoji.strip body ++ ')' :: unicodeEmoji.strip after) :=
    strip_parenthetical body
  have leftNoOpen : '(' ∉ unicodeEmoji.strip before := fun member =>
    noOpen ((strip_sublist unicodeEmoji before).subset member)
  have leftNoClose : ')' ∉ unicodeEmoji.strip body := fun member =>
    noClose ((strip_sublist unicodeEmoji body).subset member)
  constructor
  · rintro ⟨-, form⟩
    cases form with
    | emojiOnly blank =>
      rw [unicode, left] at blank
      have opening : isBlank '(' = true := blank '(' (by simp)
      exact absurd opening (by decide)
    | parenthetical lead short inside =>
      obtain ⟨-, around, -, behind⟩ := (parenthesisedAfter_iff noOpen noClose lead).1 inside
      exact absurd ⟨around, behind⟩ padding.not_blank
    | parentheticalWithEmoji lead some inside =>
      rw [unicode, left] at inside
      exact ((parenthesisedAfter_iff leftNoOpen leftNoClose lead).1 inside).2.2.1
  · intro some
    refine ⟨?_, .parentheticalWithEmoji (unicodeEmoji.strip before) ?_ ?_⟩
    · rintro ⟨rest, opens⟩
      apply head?_trimStart_ne_dash noDash (body ++ ')' :: after)
      rw [← opens]
      rfl
    · rw [unicode]
      intro same
      obtain ⟨c, member, picture⟩ := padding.picture
      have kept : c ∈ unicodeEmoji.strip (before ++ '(' :: (body ++ ')' :: after)) := by
        rw [same]
        rcases List.mem_append.1 member with inFront | behind
        · exact List.mem_append_left _ inFront
        · simp [behind]
      rw [isPictographic_of_mem_strip kept] at picture
      cases picture
    · rw [unicode, left]
      exact (parenthesisedAfter_iff leftNoOpen leftNoClose _).2 ⟨rfl, blankBefore, some, blankAfter⟩

/-- A parenthetical with emoji around it is exempt exactly if it holds something else than emoji. If it is not,
no description with this text passes. -/
theorem padded_parenthetical_exempt_iff (cx : Context) (unicode : cx.emoji = unicodeEmoji)
    (padding : Padding before after) {body : List Char} (noClose : ')' ∉ body) :
    (isSpecialCase cx (before ++ '(' :: (body ++ ')' :: after)) = true ↔
        unicodeEmoji.strip body ≠ []) ∧
      ∀ description : List Inline,
        (Inline.plainTextAll description).toList = before ++ '(' :: (body ++ ')' :: after) →
          (validateDescription cx description = .ok () ↔ unicodeEmoji.strip body ≠ []) := by
  have exempt : isSpecialCase cx (before ++ '(' :: (body ++ ')' :: after)) = true ↔
      unicodeEmoji.strip body ≠ [] :=
    (isSpecialCase_iff ..).trans (exempt_iff_of_padding unicode padding noClose)
  refine ⟨exempt, fun description reads => ?_⟩
  have noDash : '-' ∉ before := fun member =>
    padding.not_mem (by decide) (by decide) (List.mem_append_left after member)
  rw [validateDescription_eq_ok_iff_of_noDash cx reads (head?_trimStart_ne_dash noDash _)]
  exact exempt

end

/-- One letter besides the emoji is enough. -/
theorem padded_parenthetical_exempt_iff_labelled :
    (Context.standard .builtin).emoji = unicodeEmoji ∧ Padding "🎉\t🇳🇴 ".toList "✨".toList ∧
    ')' ∉ "v🚧".toList ∧
    isSpecialCase (.standard .builtin) "🎉\t🇳🇴 (v🚧)✨".toList = true ∧
    validateDescription (.standard .builtin) [.text "🎉\t" ⟨26, 31⟩, .strong [.text "🇳🇴 (v🚧)" ⟨33, 49⟩]
      ⟨31, 51⟩, .text "✨" ⟨51, 54⟩] = .ok () := by
  have padding : Padding "🎉\t🇳🇴 ".toList "✨".toList := by decide
  have noClose : ')' ∉ "v🚧".toList := by decide
  have left : unicodeEmoji.strip "v🚧".toList ≠ [] := by decide +kernel
  obtain ⟨exempt, passes⟩ :=
    padded_parenthetical_exempt_iff (.standard .builtin) rfl padding noClose
  exact ⟨rfl, padding, noClose, exempt.2 left, (passes _ (by decide +kernel)).2 left⟩

/-- Of two emoji, one in the parentheses and one before them, nothing is left. -/
theorem emoji_in_parentheses_is_rejected :
    ¬ ∀ (cx : Context) (before after body : List Char), cx.emoji = unicodeEmoji →
      Padding before after → body ≠ [] → ')' ∉ body →
      isSpecialCase cx (before ++ '(' :: (body ++ ')' :: after)) = true := by
  intro exempt
  have padding : Padding "🔥 ".toList [] := by decide
  have passes := exempt (.standard .builtin) "🔥 ".toList [] "🚀".toList rfl padding (by decide) (by decide)
  revert passes
  decide +kernel

end CuratedList
