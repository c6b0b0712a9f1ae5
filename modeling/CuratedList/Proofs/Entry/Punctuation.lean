import CuratedList.Proofs.Entry.CodeSpan
import CuratedList.Proofs.Entry.Ending

/-! # The endings that pass

Several tests look at the end of a text, and the first that decides wins. `ProperEnding` lists what passes
without this order: a mark, or a mark in quotes; no mark at all, but an emoji after at most two words; or marks
further to the front, and a parenthesis or an emoji at the end. The one ending that an early test rejects
though a later one would not is two marks before a double quote.
-/

namespace CuratedList
set_option autoImplicit false

open Text

/-! ## The forms -/

/-- The last character is a mark. -/
def EndsInMark (text : List Char) : Prop :=
  ∃ front mark, text = front ++ [mark] ∧ isTerminalMark mark = true

/-- A mark and one of `quotes` come last, behind `front`. -/
def EndsInQuotedMark (quotes front text : List Char) : Prop :=
  ∃ mark quote, text = front ++ [mark, quote] ∧ isTerminalMark mark = true ∧ quote ∈ quotes

/-- The ends that a description may have, where `full` is its text and `suffix` that of its last node. -/
inductive ProperEnding (emoji : EmojiFinder) (full suffix : List Char) : Prop
  | mark (marked : EndsInMark full)
  | singleQuote {front : List Char} (quoted : EndsInQuotedMark ['\'', '’'] front full)
  | doubleQuote {front : List Char} (quoted : EndsInQuotedMark ['"', '”'] front full)
      (oneMark : ¬ EndsInMark front)
  | shortEmoji (noMark : ∀ c ∈ full, isTerminalMark c = false) (short : (words full).length ≤ 2)
      (last : ∃ word, (words full).getLast? = some word ∧ emoji.endsWithEmoji word = true)
  | openEnded (someMark : ∃ c ∈ full, isTerminalMark c = true) (unmarked : ¬ EndsInMark full)
      (unquoted : ∀ front, ¬ EndsInQuotedMark ['"', '”', '\'', '’'] front full)
      (last : suffix.getLast? = some ')' ∨ emoji.endsWithEmoji suffix = true)

/-! ## Marks and quotes at the end -/

section

variable {front text quotes : List Char} {last : Char}

theorem endsInMark_concat_iff : EndsInMark (front ++ [last]) ↔ isTerminalMark last = true := by
  constructor
  · rintro ⟨init, mark, same, isMark⟩
    obtain ⟨-, here⟩ := List.append_inj' same rfl
    rw [(List.cons.inj here).1]
    exact isMark
  · intro isMark
    exact ⟨front, last, rfl, isMark⟩

theorem not_endsInMark_nil : ¬ EndsInMark [] := by
  rintro ⟨front, mark, same, -⟩
  simp at same

theorem any_getLast?_iff : text.getLast?.any isTerminalMark = true ↔ EndsInMark text := by
  rcases List.eq_nil_or_concat' text with rfl | ⟨init, c, rfl⟩
  · exact iff_of_false Bool.false_ne_true not_endsInMark_nil
  · rw [endsInMark_concat_iff, List.getLast?_concat, Option.any_some]

theorem exists_endsInQuotedMark_concat_iff :
    (∃ before, EndsInQuotedMark quotes before (front ++ [last])) ↔ last ∈ quotes ∧ EndsInMark front := by
  constructor
  · rintro ⟨before, mark, quote, same, isMark, member⟩
    rw [List.append_cons before mark [quote]] at same
    obtain ⟨rfl, here⟩ := List.append_inj' same rfl
    rw [(List.cons.inj here).1]
    exact ⟨member, before, mark, rfl, isMark⟩
  · rintro ⟨member, before, mark, rfl, isMark⟩
    exact ⟨before, mark, last, List.append_assoc .., isMark, member⟩

theorem EndsInQuotedMark.unique {before : List Char} {others : List Char}
    (quoted : EndsInQuotedMark quotes front text) (again : EndsInQuotedMark others before text) :
    front = before ∧ ∃ quote, quote ∈ quotes ∧ quote ∈ others := by
  obtain ⟨mark, quote, rfl, -, member⟩ := quoted
  obtain ⟨mark', quote', same, -, member'⟩ := again
  obtain ⟨rfl, ends⟩ := List.append_inj' same rfl
  have quotesSame : quote = quote' := (List.cons.inj (List.cons.inj ends).2).1
  exact ⟨rfl, quote, member, quotesSame ▸ member'⟩

theorem EndsInQuotedMark.mono {others : List Char} (sub : quotes ⊆ others)
    (quoted : EndsInQuotedMark quotes front text) : EndsInQuotedMark others front text := by
  obtain ⟨mark, quote, same, isMark, member⟩ := quoted
  exact ⟨mark, quote, same, isMark, sub member⟩

theorem EndsInQuotedMark.exists_mark (quoted : EndsInQuotedMark quotes front text) :
    ∃ c ∈ text, isTerminalMark c = true := by
  obtain ⟨mark, quote, rfl, isMark, -⟩ := quoted
  exact ⟨mark, by simp, isMark⟩

theorem EndsInMark.exists_mark (marked : EndsInMark text) : ∃ c ∈ text, isTerminalMark c = true := by
  obtain ⟨init, mark, rfl, isMark⟩ := marked
  exact ⟨mark, by simp, isMark⟩

/-- No mark is a quote. -/
theorem EndsInQuotedMark.not_endsInMark (quoted : EndsInQuotedMark quotes front text)
    (closing : ∀ c ∈ quotes, isClosingQuote c = true) : ¬ EndsInMark text := by
  obtain ⟨mark, quote, rfl, -, member⟩ := quoted
  rw [List.append_cons, endsInMark_concat_iff]
  intro isMark
  have noQuote := (apart_of_isTerminalMark isMark).1
  rw [closing quote member] at noQuote
  cases noQuote

end

/-! ## The tests -/

theorem quoteAfterTerminal_concat (front : List Char) (mark quote : Char) :
    quoteAfterTerminal (front ++ [mark, quote]) =
      if isClosingDoubleQuote quote && isTerminalMark mark then
        some !(front.getLast?.any isTerminalMark)
      else none := by
  simp [quoteAfterTerminal]

theorem endsWithTerminal_concat (front : List Char) (last : Char) :
    endsWithTerminal (front ++ [last]) =
      if isClosingQuote last then front.getLast?.any isTerminalMark else isTerminalMark last := by
  simp [endsWithTerminal]

theorem quoteAfterTerminal_of_quoted {front text : List Char}
    (quoted : EndsInQuotedMark ['"', '”'] front text) :
    quoteAfterTerminal text = some !(front.getLast?.any isTerminalMark) := by
  obtain ⟨mark, quote, rfl, isMark, member⟩ := quoted
  have double : isClosingDoubleQuote quote = true := List.contains_iff_mem.2 member
  rw [quoteAfterTerminal_concat, double, isMark]
  rfl

theorem quoteAfterTerminal_eq_none {text : List Char}
    (unquoted : ∀ front, ¬ EndsInQuotedMark ['"', '”'] front text) :
    quoteAfterTerminal text = none := by
  rcases List.eq_nil_or_concat' text with rfl | ⟨init, quote, rfl⟩
  · rfl
  · rcases List.eq_nil_or_concat' init with rfl | ⟨front, mark, rfl⟩
    · rfl
    · rw [List.append_assoc, List.singleton_append, quoteAfterTerminal_concat, if_neg]
      intro both
      obtain ⟨double, isMark⟩ := Bool.and_eq_true_iff.1 both
      apply unquoted front
      exact ⟨mark, quote, List.append_assoc .., isMark, List.contains_iff_mem.1 double⟩

theorem endsWithTerminal_iff (text : List Char) :
    endsWithTerminal text = true ↔
      EndsInMark text ∨ ∃ front, EndsInQuotedMark ['"', '”', '\'', '’'] front text := by
  rcases List.eq_nil_or_concat' text with rfl | ⟨front, last, rfl⟩
  · refine iff_of_false Bool.false_ne_true ?_
    rintro (marked | ⟨front, quoted⟩)
    · exact not_endsInMark_nil marked
    · obtain ⟨c, member, -⟩ := quoted.exists_mark
      cases member
  · have quote : isClosingQuote last = true ↔ last ∈ ['"', '”', '\'', '’'] := List.contains_iff_mem
    rw [endsWithTerminal_concat, endsInMark_concat_iff, exists_endsInQuotedMark_concat_iff, ← quote]
    by_cases closing : isClosingQuote last = true
    · have noMark : isTerminalMark last ≠ true := by
        intro isMark
        rw [(apart_of_isTerminalMark isMark).1] at closing
        cases closing
      rw [if_pos closing, any_getLast?_iff, or_iff_right noMark, and_iff_right closing]
    · rw [if_neg closing, or_iff_left fun both => closing both.1]

theorem hasTerminal_iff (text : List Char) :
    hasTerminal text = true ↔ ∃ c ∈ text, isTerminalMark c = true := List.any_eq_true

theorem isShortEmojiEnding_iff (emoji : EmojiFinder) (text : List Char) :
    isShortEmojiEnding emoji text = true ↔
      (words text).length ≤ 2 ∧
        ∃ word, (words text).getLast? = some word ∧ emoji.endsWithEmoji word = true := by
  unfold isShortEmojiEnding
  rw [Bool.and_eq_true, decide_eq_true_eq, Option.any_eq_true]

theorem isOpenEndedSuffix_iff (emoji : EmojiFinder) (suffix : List Char) :
    isOpenEndedSuffix emoji suffix = true ↔
      suffix.getLast? = some ')' ∨ emoji.endsWithEmoji suffix = true := by
  unfold isOpenEndedSuffix
  rw [Bool.or_eq_true, beq_iff_eq]

/-! ## What passes -/

section

variable (emoji : EmojiFinder) {full : List Char} (suffix : List Char)

/-- Behind a mark a double quote decides: it must be the only mark there. -/
theorem properEnding_iff_of_doubleQuote {front : List Char}
    (quoted : EndsInQuotedMark ['"', '”'] front full) :
    ProperEnding emoji full suffix ↔ ¬ EndsInMark front := by
  constructor
  · intro proper
    cases proper with
    | mark marked => exact absurd marked (quoted.not_endsInMark (by simp [isClosingQuote]))
    | singleQuote single =>
      obtain ⟨-, quote, isDouble, isSingle⟩ := quoted.unique single
      have apart : ∀ c ∈ ['"', '”'], c ∉ ['\'', '’'] := by simp
      exact absurd isSingle (apart quote isDouble)
    | doubleQuote again oneMark =>
      obtain ⟨rfl, -⟩ := quoted.unique again
      exact oneMark
    | shortEmoji noMark =>
      obtain ⟨c, member, isMark⟩ := quoted.exists_mark
      rw [noMark c member] at isMark
      cases isMark
    | openEnded someMark unmarked unquoted =>
      exact absurd (quoted.mono (List.subset_append_left _ ['\'', '’'])) (unquoted front)
  · exact .doubleQuote quoted

/-- Without a double quote behind a mark, a mark at the end passes, in quotes or not. -/
theorem properEnding_of_ended (noDouble : ∀ front, ¬ EndsInQuotedMark ['"', '”'] front full)
    (ended : EndsInMark full ∨ ∃ front, EndsInQuotedMark ['"', '”', '\'', '’'] front full) :
    ProperEnding emoji full suffix := by
  rcases ended with marked | ⟨front, mark, quote, text, isMark, member⟩
  · exact .mark marked
  · rcases List.mem_append.1 (show quote ∈ ['"', '”'] ++ ['\'', '’'] from member) with double | single
    · exact absurd ⟨mark, quote, text, isMark, double⟩ (noDouble front)
    · exact .singleQuote ⟨mark, quote, text, isMark, single⟩

/-- Without any mark only an emoji behind few words passes. -/
theorem properEnding_iff_of_noMark (none : ¬ ∃ c ∈ full, isTerminalMark c = true) :
    ProperEnding emoji full suffix ↔
      (words full).length ≤ 2 ∧
        ∃ word, (words full).getLast? = some word ∧ emoji.endsWithEmoji word = true := by
  constructor
  · intro proper
    cases proper with
    | mark marked => exact absurd marked.exists_mark none
    | singleQuote quoted => exact absurd quoted.exists_mark none
    | doubleQuote quoted => exact absurd quoted.exists_mark none
    | shortEmoji noMark short last => exact ⟨short, last⟩
    | openEnded someMark => exact absurd someMark none
  · rintro ⟨short, last⟩
    refine .shortEmoji (fun c member => ?_) short last
    rw [Bool.eq_false_iff]
    intro isMark
    exact none ⟨c, member, isMark⟩

/-- With marks, but none at the end, the last node decides. -/
theorem properEnding_iff_of_unended (someMark : ∃ c ∈ full, isTerminalMark c = true)
    (unended : ¬ (EndsInMark full ∨ ∃ front, EndsInQuotedMark ['"', '”', '\'', '’'] front full)) :
    ProperEnding emoji full suffix ↔
      suffix.getLast? = some ')' ∨ emoji.endsWithEmoji suffix = true := by
  obtain ⟨unmarked, unquoted⟩ := not_or.1 unended
  constructor
  · intro proper
    cases proper with
    | mark marked => exact absurd marked unmarked
    | singleQuote quoted =>
      exact absurd ⟨_, quoted.mono (List.subset_append_right ['"', '”'] _)⟩ unquoted
    | doubleQuote quoted =>
      exact absurd ⟨_, quoted.mono (List.subset_append_left _ ['\'', '’'])⟩ unquoted
    | shortEmoji noMark =>
      obtain ⟨c, member, isMark⟩ := someMark
      rw [noMark c member] at isMark
      cases isMark
    | openEnded _ _ _ last => exact last
  · exact .openEnded someMark unmarked (not_exists.1 unquoted)

end

/-- The tests accept exactly the proper endings of texts that are no lone code span. -/
theorem ending_accepted_iff (emoji : EmojiFinder) (full suffix : List Char) :
    endingIsValid emoji full suffix = true ↔
      ¬ LoneCodeSpan full ∧ ProperEnding emoji full suffix := by
  rw [← isSingleCodeSpan_iff]
  unfold endingIsValid
  by_cases span : isSingleCodeSpan full = true
  · rw [if_pos span]
    exact iff_of_false Bool.false_ne_true fun both => both.1 span
  · rw [if_neg span, and_iff_right span]
    by_cases double : ∃ front, EndsInQuotedMark ['"', '”'] front full
    · obtain ⟨front, quoted⟩ := double
      rw [quoteAfterTerminal_of_quoted quoted, properEnding_iff_of_doubleQuote emoji suffix quoted,
        ← any_getLast?_iff]
      simp
    · have noDouble := not_exists.1 double
      rw [quoteAfterTerminal_eq_none noDouble]
      show (if endsWithTerminal full = true then true
        else if (!hasTerminal full) = true then isShortEmojiEnding emoji full
        else isOpenEndedSuffix emoji suffix) = true ↔ _
      by_cases ended : endsWithTerminal full = true
      · rw [if_pos ended]
        exact iff_of_true rfl (properEnding_of_ended emoji suffix noDouble ((endsWithTerminal_iff full).1 ended))
      · rw [if_neg ended]
        rw [endsWithTerminal_iff] at ended
        by_cases someMark : hasTerminal full = true
        · rw [if_neg (by simp [someMark]), isOpenEndedSuffix_iff]
          exact (properEnding_iff_of_unended emoji suffix ((hasTerminal_iff full).1 someMark) ended).symm
        · rw [if_pos (by simp [someMark]), isShortEmojiEnding_iff]
          rw [hasTerminal_iff] at someMark
          exact (properEnding_iff_of_noMark emoji suffix someMark).symm

example : endingIsValid unicodeEmoji " - Says ‘hi?!’".toList [] = true ∧
    endingIsValid unicodeEmoji " - Says “hi?!”".toList [] = false := by
  decide +kernel

end CuratedList
