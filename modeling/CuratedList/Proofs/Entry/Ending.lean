import CuratedList.Proofs.Entry.Badges
import CuratedList.Proofs.Entry.Opening

/-! # How descriptions end

The text whose ending is judged has no backticks around its code spans, and it starts with the dash. So the
test for a lone code span finds none there (`isSingleCodeSpan_of_opens`), and a mark at the end is always
enough. A description that is nothing but a code span is rejected if no mark follows the span, for the span
is a badge then; with a mark it passes (`quoted_code_rejected_iff_unmarked`).
-/

namespace CuratedList
set_option autoImplicit false

open Text

/-! ## Lone code spans -/

theorem isSingleCodeSpan_of_head {c : Char} (noTick : c ≠ '`') (cs : List Char) :
    isSingleCodeSpan (c :: cs) = false := by
  have body := dropWhileEnd_append_takeWhileEnd isTerminalMark (c :: cs)
  have ticks : (dropWhileEnd isTerminalMark (c :: cs)).takeWhile (· == '`') = [] := by
    cases left : dropWhileEnd isTerminalMark (c :: cs) with
    | nil => rfl
    | cons d ds =>
      rw [left, List.cons_append] at body
      rw [(List.cons.inj body).1]
      exact List.takeWhile_cons_of_neg (by simpa using noTick)
  rw [isSingleCodeSpan_eq_iff, isSingleCodeSpan?_eq]
  simp only [ticks, byteLength_nil, true_or, if_true]

/-- What opens with a dash is no lone code span. -/
theorem isSingleCodeSpan_of_opens {cx : Context} {dash text : List Char} (opens : Opens cx dash text)
    (more : List Char) : isSingleCodeSpan (dash ++ more) = false := by
  obtain ⟨c, cs, rfl, separator⟩ := opens.isSeparator_head
  refine isSingleCodeSpan_of_head ?_ (cs ++ more)
  rintro rfl
  revert separator
  decide

/-! ## Marks at the end -/

theorem apart_of_isTerminalMark {c : Char} (mark : isTerminalMark c = true) :
    isClosingQuote c = false ∧ isClosingDoubleQuote c = false ∧ isBlank c = false := by
  simp only [isTerminalMark, List.contains_iff_mem, List.mem_cons, List.not_mem_nil, or_false] at mark
  rcases mark with rfl | rfl | rfl | rfl <;> decide

theorem endingIsValid_of_mark (emoji : EmojiFinder) {front : List Char} {c : Char}
    (mark : isTerminalMark c = true) (noSpan : isSingleCodeSpan (front ++ [c]) = false)
    (suffix : List Char) : endingIsValid emoji (front ++ [c]) suffix = true := by
  obtain ⟨noQuote, noDouble, -⟩ := apart_of_isTerminalMark mark
  have undecided : quoteAfterTerminal (front ++ [c]) = none := by
    rw [quoteAfterTerminal, List.reverse_append, List.reverse_singleton, List.singleton_append]
    split
    next quote before same =>
      rw [← (List.cons.inj same).1, noDouble, Bool.false_and]
      rfl
    next => rfl
  have marked : endsWithTerminal (front ++ [c]) = true := by
    simp [endsWithTerminal, noQuote, mark]
  rw [endingIsValid, noSpan, undecided, marked]
  rfl

/-! ## Descriptions of one code span -/

/-- The nodes of a description that is the code span `code`, with the text `marks` after it if there is
any. -/
def quotedCode (code marks : String) (dashSpan codeSpan marksSpan : Span) : List Inline :=
  .text " - " dashSpan :: .code code codeSpan :: if marks = "" then [] else [.text marks marksSpan]

section

variable (cx : Context) (code : String) (dashSpan codeSpan marksSpan : Span)

theorem endingIsValid_dash (emoji : EmojiFinder) :
    endingIsValid emoji (trimEnd dashSeparator) (trimEnd dashSeparator) = false := by
  have trimmed : trimEnd dashSeparator = [' ', '-'] := by decide
  rw [trimmed]
  rfl

/-- Without marks the code span is a badge, and what is left before it is a dash. -/
theorem validateDescription_quotedCode_unmarked :
    validateDescription cx (quotedCode code "" dashSpan codeSpan marksSpan) =
      .error ⟨.missingPunctuation, dashSpan⟩ := by
  have text : " - ".toList = dashSeparator := by decide
  have noBadge : isBadge (.text " - " dashSpan) = false := by
    rw [isBadge, text]
    decide
  have allBadges : ∀ node ∈ [Inline.code code codeSpan], isBadge node = true := by simp [isBadge]
  have ending : checkEnding cx ([] ++ [.text " - " dashSpan]) (decide ([Inline.code code codeSpan] ≠ []))
      (.text " - " dashSpan) = .error ⟨.missingPunctuation, dashSpan⟩ := by
    simp [checkEnding, Inline.kind, isTerminalKind, Inline.asText, Inline.span, Inline.plainTextAll,
      Inline.plainText, text, endingIsValid_dash, reject]
  have rejected : validateDescription cx ([] ++ .text " - " dashSpan :: [.code code codeSpan]) = _ :=
    validateDescription_of_separator cx rfl (by simp [text]) noBadge allBadges
  rw [ending] at rejected
  exact rejected

theorem validateDescription_quotedCode_marked {marks : String} (some : marks ≠ "")
    (allMarks : ∀ c ∈ marks.toList, isTerminalMark c = true) :
    validateDescription cx (quotedCode code marks dashSpan codeSpan marksSpan) = .ok () := by
  obtain ⟨front, c, marksEnd⟩ : ∃ front c, marks.toList = front ++ [c] :=
    ⟨_, _, (List.dropLast_concat_getLast (by simpa using some)).symm⟩
  have mark : isTerminalMark c = true := allMarks c (by rw [marksEnd]; simp)
  have opens : dashSeparator <+: " - ".toList := by decide
  have noBadge : isBadge (.text marks marksSpan) = false := by
    have inked := (apart_of_isTerminalMark mark).2.2
    simp [isBadge, allBlank, marksEnd, inked]
  -- the text of the nodes has no backticks
  have full : (Inline.plainTextAll [.text " - " dashSpan, .code code codeSpan,
      .text marks marksSpan]).toList = " - ".toList ++ (code.toList ++ front) ++ [c] := by
    simp [Inline.plainTextAll, Inline.plainText, marksEnd]
  have valid : endingIsValid cx.emoji (" - ".toList ++ (code.toList ++ front) ++ [c])
      marks.toList = true := by
    refine endingIsValid_of_mark cx.emoji mark ?_ marks.toList
    rw [List.append_assoc]
    exact isSingleCodeSpan_of_opens (.inl opens : Opens cx _ []) _
  have ending : checkEnding cx [.text " - " dashSpan, .code code codeSpan, .text marks marksSpan]
      (decide (([] : List Inline) ≠ [])) (.text marks marksSpan) = .ok () := by
    refine (checkEnding_eq_ok_iff ..).2 ⟨rfl, ?_⟩
    rintro _ ⟨⟩
    simpa only [EndsProperly, if_true, full] using valid
  have accepted : validateDescription cx
      ([.text " - " dashSpan, .code code codeSpan] ++ [.text marks marksSpan]) = _ :=
    validateDescription_of_separator cx rfl opens noBadge (by simp)
  rw [quotedCode, if_neg some]
  refine accepted.trans ?_
  rw [List.cons_append, List.singleton_append, ending]
  rfl

/-- A description that is a quoted code span is rejected exactly if no mark follows the span, and passes if
one does. -/
theorem quoted_code_rejected_iff_unmarked {marks : String}
    (allMarks : ∀ c ∈ marks.toList, isTerminalMark c = true) :
    (validateDescription cx (quotedCode code marks dashSpan codeSpan marksSpan) =
        .error ⟨.missingPunctuation, dashSpan⟩ ↔ marks = "") ∧
      (validateDescription cx (quotedCode code marks dashSpan codeSpan marksSpan) = .ok () ↔
        marks ≠ "") := by
  by_cases none : marks = ""
  · subst none
    simp [validateDescription_quotedCode_unmarked]
  · simp [validateDescription_quotedCode_marked cx code dashSpan codeSpan marksSpan none allMarks, none]

end

/-- The code span is rejected where it stands alone, and passes with two marks after it. -/
theorem quoted_code_rejected_iff_unmarked_or_marked :
    let quoted := fun marks => quotedCode "cargo doc." marks ⟨26, 29⟩ ⟨29, 41⟩ ⟨41, 43⟩
    ((∀ c ∈ "".toList, isTerminalMark c = true) ∧
      validateDescription (.standard .builtin) (quoted "") = .error ⟨.missingPunctuation, ⟨26, 29⟩⟩) ∧
    (∀ c ∈ "!?".toList, isTerminalMark c = true) ∧
      validateDescription (.standard .builtin) (quoted "!?") = .ok () := by
  intro quoted
  have none : ∀ c ∈ "".toList, isTerminalMark c = true := by simp
  have two : ∀ c ∈ "!?".toList, isTerminalMark c = true := List.all_eq_true.1 (by decide)
  exact ⟨⟨none, (quoted_code_rejected_iff_unmarked _ _ _ _ _ none).1.2 rfl⟩,
    two, (quoted_code_rejected_iff_unmarked _ _ _ _ _ two).2.2 (by decide)⟩

/-- With a mark after it the code span passes: nothing shows that it is quoted. -/
theorem quoted_code_with_mark_is_accepted :
    ¬ ∀ (cx : Context) (code marks : String) (dashSpan codeSpan marksSpan : Span), code ≠ "" →
      (∀ c ∈ marks.toList, isTerminalMark c = true) →
      ∃ v, validateDescription cx (quotedCode code marks dashSpan codeSpan marksSpan) = .error v := by
  intro rejected
  have accepted : validateDescription (.standard .builtin)
      (quotedCode "foo" "." ⟨0, 3⟩ ⟨3, 8⟩ ⟨8, 9⟩) = .ok () := by
    decide +kernel
  obtain ⟨v, h⟩ := rejected (.standard .builtin) "foo" "." ⟨0, 3⟩ ⟨3, 8⟩ ⟨8, 9⟩ (by decide)
    (List.all_eq_true.1 (by decide))
  rw [accepted] at h
  cases h

end CuratedList
