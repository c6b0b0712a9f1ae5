import CuratedList.Proofs.Entry.Opening
import CuratedList.Text.Casing

/-! # The casing rule in one condition

A word has one of eight styles, read off its letters, and five of them may open a description. Together
they come to this: the word has a capital letter, and no underscore beside a small one
(`isAcceptedStyle_ofWord_iff`). Characters that are neither letters nor numbers are left out before the
style is read, and make no difference to it (`ofWord_filter_isWordChar`).

`first_word_verdict_iff` says with this which of the three verdicts a first word gets.
-/

namespace CuratedList
set_option autoImplicit false

namespace Text

/-! ## Capital and small letters are letters -/

/-- Each range of `r` lies in a range of `s`; both are read from left to right. -/
def Ranges.within : (r s : Ranges) → Bool
  | [], _ => true
  | _ :: _, [] => false
  | p :: r, q :: s =>
    if q.1 ≤ p.1 ∧ p.2 ≤ q.2 then Ranges.within r (q :: s) else Ranges.within (p :: r) s
  termination_by r s => r.length + s.length

theorem Ranges.holds_of_within {r s : Ranges} (within : r.within s = true) {c : Char}
    (inside : r.holds c = true) : s.holds c = true := by
  fun_induction Ranges.within r s with
  | case1 => cases inside
  | case2 => cases within
  | case3 p r q s covers ih =>
    obtain ⟨range, member, low, high⟩ := (Ranges.holds_iff _ c).1 inside
    rcases List.mem_cons.1 member with rfl | later
    · exact (Ranges.holds_iff _ c).2 ⟨q, List.mem_cons_self, by omega, by omega⟩
    · exact ih within ((Ranges.holds_iff _ c).2 ⟨range, later, low, high⟩)
  | case4 p r q s apart ih =>
    obtain ⟨range, member, bounds⟩ := (Ranges.holds_iff _ c).1 (ih within inside)
    exact (Ranges.holds_iff _ c).2 ⟨range, List.mem_cons_of_mem q member, bounds⟩

theorem isAlphabetic_of_isUppercase {c : Char} (upper : isUppercase c = true) :
    isAlphabetic c = true := by
  have within : uppercaseRanges.within alphabeticRanges = true := by decide +kernel
  exact Ranges.holds_of_within within upper

theorem isAlphabetic_of_isLowercase {c : Char} (lower : isLowercase c = true) :
    isAlphabetic c = true := by
  have within : lowercaseRanges.within alphabeticRanges = true := by decide +kernel
  exact Ranges.holds_of_within within lower

theorem any_filter_isAlphabetic {p : Char → Bool} (letter : ∀ c, p c = true → isAlphabetic c = true)
    (word : List Char) : (word.filter isAlphabetic).any p = word.any p := by
  rw [List.any_filter]
  congr 1
  funext c
  cases h : p c with
  | false => rw [Bool.and_false]
  | true => rw [letter c h, Bool.and_true]

end Text

open Text

/-! ## Styles of words -/

/-- A word that is cased like a name: it has a capital letter, and no underscore beside a small one. -/
def Capitalised (word : List Char) : Prop :=
  (∃ c ∈ word, isUppercase c = true) ∧ ¬ ('_' ∈ word ∧ ∃ c ∈ word, isLowercase c = true)

theorem isAcceptedStyle_ofWord (word : List Char) :
    isAcceptedStyle (CaseStyle.ofWord word) =
      (word.any isUppercase && !(word.contains '_' && word.any isLowercase)) := by
  have upper := any_filter_isAlphabetic (fun _ => isAlphabetic_of_isUppercase) word
  have lower := any_filter_isAlphabetic (fun _ => isAlphabetic_of_isLowercase) word
  rw [← upper, ← lower]
  unfold CaseStyle.ofWord
  cases word.filter isAlphabetic with
  | nil => rfl
  | cons first rest =>
    -- the styles differ by where the capitals stand only if there are capital and small letters
    simp only
    cases (first :: rest).any isUppercase <;> cases (first :: rest).any isLowercase <;>
      cases word.contains '_' <;> try rfl
    cases isUppercase first <;> cases rest.any isUppercase <;> rfl

theorem isAcceptedStyle_ofWord_iff (word : List Char) :
    isAcceptedStyle (CaseStyle.ofWord word) = true ↔ Capitalised word := by
  rw [isAcceptedStyle_ofWord, Capitalised, Bool.and_eq_true, List.any_eq_true, Bool.not_eq_true',
    ← Bool.not_eq_true, Bool.and_eq_true, List.contains_iff_mem, List.any_eq_true]

/-- The style of a word is that of its letters, numbers and underscores. -/
theorem ofWord_filter_isWordChar (word : List Char) :
    CaseStyle.ofWord (word.filter isWordChar) = CaseStyle.ofWord word := by
  have letters : (word.filter isWordChar).filter isAlphabetic = word.filter isAlphabetic := by
    rw [List.filter_filter]
    congr 1
    funext c
    cases h : isAlphabetic c with
    | false => rw [Bool.false_and]
    | true => rw [isWordChar, isAlphanumeric, h, Bool.true_or, Bool.true_or, Bool.true_and]
  have underscore : (word.filter isWordChar).contains '_' = word.contains '_' := by
    rw [Bool.eq_iff_iff, List.contains_iff_mem, List.contains_iff_mem, List.mem_filter]
    exact and_iff_left (by simp [isWordChar])
  unfold CaseStyle.ofWord
  rw [letters, underscore]

/-! ## Verdicts on first words -/

/-- A word that may open a description when the words of `isAllowed` need no capital. -/
def MayOpen (isAllowed : String → Bool) (word : List Char) : Prop :=
  (∃ c, word.head? = some c ∧ isQuoteOpener c = true) ∨ (∃ c ∈ word, isDigit c = true) ∨
    isAllowed (String.ofList word) = true ∨ Capitalised word

theorem isAcceptedWord_iff (cx : Context) (word : List Char) :
    isAcceptedWord { cx with casing := CaseStyle.ofWord } word = true ↔ MayOpen cx.isAllowed word := by
  simp only [isAcceptedWord, isExemptWord, ofWord_filter_isWordChar, Bool.or_eq_true,
    isAcceptedStyle_ofWord_iff, Option.any_eq_true, List.any_eq_true, MayOpen, or_assoc]

/-- The dash holds no word, so the word that is judged is the first one of the text. -/
theorem judgedWord?_dashSeparator_append (rest : List Char) :
    judgedWord? (dashSeparator ++ rest) = (words (dashSeparator ++ rest)).head? := by
  have afterDash : (dashSeparator ++ rest).drop 3 = rest := rfl
  have separators : ∀ c ∈ dashSeparator, isSeparator c = true := List.all_eq_true.1 (by decide)
  rw [judgedWord?, afterDash, words_separators_append separators]

theorem wordVerdict_eq_emptyStart_iff (cx : Context) (span : Span) (word : Option (List Char)) :
    wordVerdict cx span word = reject .emptyStart span ↔ word = none := by
  cases word with
  | none => exact iff_of_true rfl rfl
  | some word => cases h : isAcceptedWord cx word <;> simp [wordVerdict, reject, h]

theorem wordVerdict_eq_ok_iff (cx : Context) (span : Span) (word : Option (List Char)) :
    wordVerdict cx span word = .ok () ↔ ∃ w, word = some w ∧ isAcceptedWord cx w = true := by
  cases word with
  | none => simp [wordVerdict, reject]
  | some word => cases h : isAcceptedWord cx word <;> simp [wordVerdict, reject, h]

theorem wordVerdict_eq_invalidCasing_iff (cx : Context) (span : Span) (word : Option (List Char)) :
    wordVerdict cx span word = reject .invalidCasing span ↔
      ∃ w, word = some w ∧ ¬ isAcceptedWord cx w = true := by
  cases word with
  | none => simp [wordVerdict, reject]
  | some word => cases h : isAcceptedWord cx word <;> simp [wordVerdict, reject, h]

/-- The first word after a dash decides: without any word the opening is empty, and with one the verdict
depends on whether the word starts with a quote, has a digit, is allowed, or is cased like a name. -/
theorem first_word_verdict_iff (cx : Context) (rest : List Char) (span : Span) :
    (checkFirstWord { cx with casing := CaseStyle.ofWord } (dashSeparator ++ rest) span =
        reject .emptyStart span ↔
      ∀ c ∈ dashSeparator ++ rest, isSeparator c = true) ∧
    (checkFirstWord { cx with casing := CaseStyle.ofWord } (dashSeparator ++ rest) span = .ok () ↔
      ∃ word, FirstWord (dashSeparator ++ rest) word ∧ MayOpen cx.isAllowed word) ∧
    (checkFirstWord { cx with casing := CaseStyle.ofWord } (dashSeparator ++ rest) span =
        reject .invalidCasing span ↔
      ∃ word, FirstWord (dashSeparator ++ rest) word ∧ ¬ MayOpen cx.isAllowed word) := by
  rw [checkFirstWord_eq_wordVerdict, judgedWord?_dashSeparator_append]
  refine ⟨?_, ?_, ?_⟩
  · rw [wordVerdict_eq_emptyStart_iff, words_head?_eq_none_iff]
  · simp only [wordVerdict_eq_ok_iff, words_head?_eq_some_iff, isAcceptedWord_iff]
  · simp only [wordVerdict_eq_invalidCasing_iff, words_head?_eq_some_iff, isAcceptedWord_iff]

end CuratedList
