import CuratedList.Check
import CuratedList.Proofs.Entry.FirstWord
import CuratedList.Proofs.Entry.Grammar

/-! # How descriptions open

The casing rule leaves out the first three characters of the text that opens a description, and judges the
first word of the others (`judgedWord?`). A quote or a parenthesis at the start of that word exempts it,
but the straight single quote parts words and so starts none (`quoted_opening_exempt_iff`).

Three characters are the whole separator. A dash with an emoji at the end opens a description as well, and
then they can be part of a word. `judged_word_is_first_iff` says when the word that is judged is the first
word of the text nevertheless.
-/

namespace CuratedList
set_option autoImplicit false

open Text

/-! ## Words at a cut -/

/-- A word that is open when the rest of a text starts goes on up to the next separator. -/
theorem head?_wordsFrom {run : List Char} (open' : run ≠ []) (cs : List Char) :
    (wordsFrom run cs).head? = some (run.reverse ++ cs.takeWhile fun c => !isSeparator c) := by
  induction cs generalizing run with
  | nil => simp [wordsFrom, open']
  | cons c cs ih =>
    cases separator : isSeparator c with
    | true => simp [wordsFrom, separator, open']
    | false => simp [wordsFrom, separator, ih]

/-- An open word ends where the rest of a text starts, or it goes on with what is the first word of the
rest. -/
theorem wordsFrom_ended_or_longer {run : List Char} (open' : run ≠ []) (rest : List Char) :
    wordsFrom run rest = run.reverse :: words rest ∨
      ∃ more, more ≠ [] ∧ (words rest).head? = some more ∧
        (wordsFrom run rest).head? = some (run.reverse ++ more) := by
  cases rest with
  | nil => exact .inl (by simp [wordsFrom, words, open'])
  | cons c cs =>
    cases separator : isSeparator c with
    | true => exact .inl (by simp [wordsFrom, words, separator, open'])
    | false =>
      have first := head?_wordsFrom (List.cons_ne_nil c []) cs
      refine .inr ⟨_, by simp [separator], ?_, head?_wordsFrom open' (c :: cs)⟩
      simpa [words, wordsFrom, separator] using first

theorem exists_firstWord_cons {c : Char} (inWord : isSeparator c = false) (cs : List Char) :
    ∃ tail, FirstWord (c :: cs) (c :: tail) := by
  have kept : (c :: cs).dropWhile isSeparator = c :: cs := by
    rw [List.dropWhile_cons_of_neg (by simp [inWord])]
  have first := firstWord_takeWhile kept
  rw [List.takeWhile_cons_of_pos (by simp [inWord])] at first
  exact ⟨_, first⟩

/-! ## Quoted openings -/

theorem isSeparator_of_isQuoteOpener {c : Char} (opener : isQuoteOpener c = true) :
    isSeparator c = true ↔ c = '\'' := by
  simp only [isQuoteOpener, List.contains_iff_mem, List.mem_cons, List.not_mem_nil, or_false] at opener
  rcases opener with rfl | rfl | rfl | rfl | rfl <;> decide

/-- A quote or a parenthesis right after the dash exempts what it opens, unless it is the straight single
quote: with that one a text is accepted only if it is without it. -/
theorem quoted_opening_exempt_iff (cx : Context) {c : Char} (opener : isQuoteOpener c = true)
    (rest : List Char) (span : Span) :
    checkFirstWord cx (dashSeparator ++ c :: rest) span = .ok () ↔
      c ≠ '\'' ∨ checkFirstWord cx (dashSeparator ++ rest) span = .ok () := by
  have afterDash (cs : List Char) : (dashSeparator ++ cs).drop 3 = cs := rfl
  cases separator : isSeparator c with
  | true =>
    have single : c = '\'' := (isSeparator_of_isQuoteOpener opener).1 separator
    rw [checkFirstWord, checkFirstWord, afterDash, afterDash, words_cons_separator separator]
    simp [single]
  | false =>
    have noSingle : c ≠ '\'' := by
      rw [Ne, ← isSeparator_of_isQuoteOpener opener, separator]
      exact Bool.false_ne_true
    obtain ⟨tail, first⟩ := exists_firstWord_cons separator rest
    have exempt : isAcceptedWord cx (c :: tail) = true := by
      simp only [isAcceptedWord, isExemptWord, List.head?_cons, Option.any_some, opener, Bool.true_or]
    refine iff_of_true ((checkFirstWord_eq_ok_iff ..).2 ⟨c :: tail, ?_, exempt⟩) (.inl noSingle)
    rw [afterDash]
    exact first

theorem quoted_opening_exempt_iff_curly :
    isQuoteOpener '‘' = true ∧
    checkFirstWord (.standard .builtin) (dashSeparator ++ '‘' :: "quoted’ tool.".toList) ⟨0, 0⟩ =
      .ok () :=
  ⟨by decide, (quoted_opening_exempt_iff _ (by decide) _ _).2 (.inl (by decide))⟩

/-- The straight single quote is listed among the openers, but exempts nothing. -/
theorem single_quoted_word_is_rejected :
    ¬ ∀ (cx : Context) (c : Char) (rest : List Char) (span : Span), isQuoteOpener c = true →
      checkFirstWord cx (dashSeparator ++ c :: rest) span = .ok () := by
  intro exempt
  have rejected : checkFirstWord (.standard .builtin)
      (dashSeparator ++ '\'' :: "quoted' tool.".toList) ⟨0, 0⟩ ≠ .ok () := by
    decide +kernel
  exact rejected (exempt (.standard .builtin) '\'' "quoted' tool.".toList ⟨0, 0⟩ (by decide))

/-! ## The judged word -/

/-- The word that the casing rule judges in the text `dash` of a separator node, if there is one. -/
def judgedWord? (dash : List Char) : Option (List Char) := (words (dash.drop 3)).head?

/-- The verdict on a first word. -/
def wordVerdict (cx : Context) (span : Span) : Option (List Char) → Verdict
  | none => reject .emptyStart span
  | some word => if isAcceptedWord cx word then .ok () else reject .invalidCasing span

theorem checkFirstWord_eq_wordVerdict (cx : Context) (dash : List Char) (span : Span) :
    checkFirstWord cx dash span = wordVerdict cx span (judgedWord? dash) := by
  rw [checkFirstWord, judgedWord?]
  cases (words (dash.drop 3)).head? <;> rfl

/-- The rules come to the first word of `description`: no test before is met or missed. The description
starts with the text `dash`, and is `before`, then `last`, then `badges`. -/
structure ReachesFirstWord (cx : Context) (dash : String) (span : Span)
    (description before : List Inline) (last : Inline) (badges : List Inline) : Prop where
  regular : isSpecialCase cx (Inline.plainTextAll description).toList = false
  head : description.head? = some (.text dash span)
  split : description = before ++ last :: badges
  opens : Opens cx dash.toList (Inline.plainTextAll description).toList
  allBadges : ∀ node ∈ badges, isBadge node = true
  noBadge : isBadge last = false
  ending : checkEnding cx (before ++ [last]) (decide (badges ≠ [])) last = .ok ()
  looked : before = [] ∨
    (∀ node ∈ before ++ [last], isDescriptionKind node.kind = true) ∧
      dashSeparator.length < dash.toList.length

theorem ReachesFirstWord.validateDescription_eq {cx : Context} {dash : String} {span : Span}
    {description before badges : List Inline} {last : Inline}
    (reached : ReachesFirstWord cx dash span description before last badges) :
    validateDescription cx description = checkFirstWord cx dash.toList span := by
  obtain ⟨rest, nodes⟩ := List.head?_eq_some_iff.1 reached.head
  have regular := reached.regular
  have opens := reached.opens
  rw [nodes] at regular opens
  have separator : checkSeparator cx (.text dash span) rest
      (Inline.plainTextAll (.text dash span :: rest)).toList = .ok dash.toList :=
    (checkSeparator_eq_ok_iff ..).2 ((separatorText?_eq_some_iff ..).2 ⟨dash, rfl, rfl, opens⟩)
  have content : checkContent cx (before ++ [last]) dash.toList span =
      checkFirstWord cx dash.toList span := by
    rw [checkContent]
    split
    · rfl
    next several =>
      rcases reached.looked with rfl | ⟨allowed, long⟩
      · exact absurd rfl several
      · have none : ((before ++ [last]).find? fun node => !isDescriptionKind node.kind) = none :=
          List.find?_eq_none.2 fun node member => by simp [allowed node member]
        rw [none]
        exact if_pos long
  have judged := validateDescription_of_checkSeparator cx regular separator
    (nodes.symm.trans reached.split) reached.allBadges reached.noBadge
  rw [reached.ending] at judged
  rw [nodes]
  exact judged.trans content

/-! ## Whole words -/

theorem Opens.isSeparator_head {cx : Context} {dash text : List Char} (opens : Opens cx dash text) :
    ∃ c cs, dash = c :: cs ∧ isSeparator c = true := by
  rcases opens with ⟨rest, rfl⟩ | ⟨-, head, -⟩
  · exact ⟨' ', '-' :: ' ' :: rest, rfl, by decide⟩
  · cases dash with
    | nil => cases head
    | cons c cs =>
      refine ⟨c, cs, rfl, ?_⟩
      cases blank : isBlank c with
      | true => simp only [isSeparator, blank, Bool.true_or]
      | false =>
        have dash : c = '-' := by simpa [trimStart, blank] using head
        rw [dash]
        decide

/-- A separator and two more characters hold no word, or one. It ends there, or it goes on with what stands
before the next separator, and then this part is the first word of what follows. -/
theorem words_of_three {s x y : Char} (starts : isSeparator s = true) (rest : List Char) :
    (∀ c ∈ [s, x, y], isSeparator c = true) ∨
      ∃ word, word ≠ [] ∧ words [s, x, y] = [word] ∧
        (words (s :: x :: y :: rest) = word :: words rest ∨
          ∃ more, more ≠ [] ∧ (words rest).head? = some more ∧
            (words (s :: x :: y :: rest)).head? = some (word ++ more)) := by
  cases second : isSeparator x with
  | true =>
    cases third : isSeparator y with
    | true => exact .inl (by simp [starts, second, third])
    | false =>
      refine .inr ⟨[y], List.cons_ne_nil _ _, by simp [words, wordsFrom, starts, second, third], ?_⟩
      simpa [words, wordsFrom, starts, second, third] using
        wordsFrom_ended_or_longer (List.cons_ne_nil y []) rest
  | false =>
    cases third : isSeparator y with
    | true =>
      exact .inr ⟨[x], List.cons_ne_nil _ _, by simp [words, wordsFrom, starts, second, third],
        .inl (by simp [words, wordsFrom, starts, second, third])⟩
    | false =>
      refine .inr ⟨[x, y], List.cons_ne_nil _ _, by simp [words, wordsFrom, starts, second, third], ?_⟩
      simpa [words, wordsFrom, starts, second, third] using
        wordsFrom_ended_or_longer (List.cons_ne_nil y [x]) rest

/-- In a text that starts with a separator the judged word is the first one exactly if the three characters
before it hold no word, or nothing else does, or the word that they hold is there twice. -/
theorem judgedWord?_isFirst_iff {s : Char} {cs : List Char} (starts : isSeparator s = true) :
    (∀ word, judgedWord? (s :: cs) = some word → (words (s :: cs)).head? = some word) ↔
      (∀ c ∈ (s :: cs).take 3, isSeparator c = true) ∨
        (∀ c ∈ (s :: cs).drop 3, isSeparator c = true) ∨
          ∃ word more, words ((s :: cs).take 3) = [word] ∧ words (s :: cs) = word :: word :: more := by
  rcases cs with _ | ⟨x, _ | ⟨y, rest⟩⟩
  · exact iff_of_true (by rintro _ ⟨⟩) (.inr (.inl (by simp)))
  · exact iff_of_true (by rintro _ ⟨⟩) (.inr (.inl (by simp)))
  · show (∀ word, (words rest).head? = some word → _) ↔ (∀ c ∈ [s, x, y], _) ∨ (∀ c ∈ rest, _) ∨
      ∃ word more, words [s, x, y] = [word] ∧ _
    rcases separators_or_exists_firstWord rest with separators | ⟨judged, judgedFirst⟩
    · rw [words_of_separators separators]
      exact iff_of_true (by rintro _ ⟨⟩) (.inr (.inl separators))
    · have head := judgedFirst.head?_words
      rw [head, or_iff_right judgedFirst.not_separators]
      -- the first word of the text is the judged one, or it starts in the three characters
      rcases words_of_three starts rest with separators | ⟨word, some, alone, whole⟩
      · rw [← head, ← words_separators_append separators rest]
        exact iff_of_true (fun word first => first) (.inl separators)
      · have inked : ¬ ∀ c ∈ [s, x, y], isSeparator c = true := by
          intro separators
          rw [words_of_separators separators] at alone
          cases alone
        rw [or_iff_right inked, alone]
        rcases whole with whole | ⟨more, longer, moreFirst, whole⟩
        · obtain ⟨others, next⟩ := List.head?_eq_some_iff.1 head
          rw [whole, next]
          constructor
          · intro first
            obtain rfl : word = judged := Option.some.inj (first judged rfl)
            exact ⟨word, others, rfl, rfl⟩
          · rintro ⟨other, more, first, both⟩ _ ⟨⟩
            obtain rfl := (List.cons.inj first).1
            rw [(List.cons.inj (List.cons.inj both).2).1, List.head?_cons]
        · -- the word that is judged is the end of a longer one
          obtain rfl : more = judged := Option.some.inj (moreFirst.symm.trans head)
          refine iff_of_false (fun first => some ?_) ?_
          · have same := Option.some.inj (whole.symm.trans (first more rfl))
            exact List.append_left_eq_self.1 same
          · rintro ⟨other, others, first, both⟩
            obtain rfl := (List.cons.inj first).1
            rw [both] at whole
            exact longer (List.self_eq_append_right.1 (Option.some.inj whole))

/-- The verdict on a description whose first word is looked for is that on the judged word. It is the first
word of the text that opens the description exactly if the three characters left out hold no word, or
nothing else does, or the word that they hold is there twice. -/
theorem judged_word_is_first_iff (cx : Context) {dash : String} {span : Span}
    {description before badges : List Inline} {last : Inline}
    (reached : ReachesFirstWord cx dash span description before last badges) :
    validateDescription cx description = wordVerdict cx span (judgedWord? dash.toList) ∧
      ((∀ word, judgedWord? dash.toList = some word → (words dash.toList).head? = some word) ↔
        (∀ c ∈ dash.toList.take 3, isSeparator c = true) ∨
          (∀ c ∈ dash.toList.drop 3, isSeparator c = true) ∨
            ∃ word more, words (dash.toList.take 3) = [word] ∧
              words dash.toList = word :: word :: more) := by
  obtain ⟨c, cs, text, starts⟩ := reached.opens.isSeparator_head
  rw [reached.validateDescription_eq, checkFirstWord_eq_wordVerdict, text]
  exact ⟨rfl, judgedWord?_isFirst_iff starts⟩

theorem reachesFirstWord_alone {cx : Context} {dash : String} (span : Span)
    (regular : isSpecialCase cx dash.toList = false) (opens : Opens cx dash.toList dash.toList)
    (inked : allBlank dash.toList = false)
    (ending : endingIsValid cx.emoji dash.toList dash.toList = true) :
    ReachesFirstWord cx dash span [.text dash span] [] (.text dash span) [] where
  regular := by simpa [Inline.plainTextAll, Inline.plainText] using regular
  head := rfl
  split := rfl
  opens := by simpa [Inline.plainTextAll, Inline.plainText] using opens
  allBadges := by simp
  noBadge := inked
  ending := by
    refine (checkEnding_eq_ok_iff cx [.text dash span] [] (.text dash span)).2 ⟨rfl, ?_⟩
    rintro _ ⟨⟩
    simpa [EndsProperly, Inline.plainTextAll, Inline.plainText] using ending
  looked := .inl rfl

/-- A dash after two blanks is left out whole. -/
theorem judged_word_is_first_iff_indented :
    ReachesFirstWord (.standard .builtin) "\t -Tool 🔥" ⟨26, 37⟩ [.text "\t -Tool 🔥" ⟨26, 37⟩] []
        (.text "\t -Tool 🔥" ⟨26, 37⟩) [] ∧
      validateDescription (.standard .builtin) [.text "\t -Tool 🔥" ⟨26, 37⟩] =
        wordVerdict (.standard .builtin) ⟨26, 37⟩ (some "Tool".toList) ∧
      ∀ word, judgedWord? "\t -Tool 🔥".toList = some word →
        (words "\t -Tool 🔥".toList).head? = some word := by
  have opens : Opens (.standard .builtin) "\t -Tool 🔥".toList "\t -Tool 🔥".toList :=
    .inr ⟨rfl, by decide, by decide +kernel⟩
  have reached := reachesFirstWord_alone ⟨26, 37⟩ (by decide +kernel) opens (by decide)
    (by decide +kernel)
  obtain ⟨verdict, whole⟩ := judged_word_is_first_iff _ reached
  exact ⟨reached, verdict, whole.2 (.inl (List.all_eq_true.1 (by decide)))⟩

/-- Of the first word of this text only the end is judged. -/
theorem fragment_is_judged :
    ¬ ∀ (cx : Context) (dash : String) (span : Span) (description before badges : List Inline)
      (last : Inline), ReachesFirstWord cx dash span description before last badges →
      ∀ word, judgedWord? dash.toList = some word → (words dash.toList).head? = some word := by
  intro whole
  have opens : Opens (.standard .builtin) " -Tool 🔥".toList " -Tool 🔥".toList :=
    .inr ⟨rfl, by decide, by decide +kernel⟩
  have reached := reachesFirstWord_alone ⟨26, 36⟩ (by decide +kernel) opens (by decide)
    (by decide +kernel)
  have first := whole _ _ _ _ _ _ _ reached "ool".toList (by decide)
  revert first
  decide

example : validateDescription (.standard .builtin) [.text " -Tool 🔥" ⟨26, 36⟩] =
    .error ⟨.invalidCasing, ⟨26, 36⟩⟩ := by
  decide +kernel

end CuratedList
