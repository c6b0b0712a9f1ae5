import CuratedList.Check
import CuratedList.Proofs.Text.Words

/-! # Words that may open a description

The casing rule looks up the first word of a description among the allowed words, and what it looks up
is a word of the tokenised text. So an allowed word is recognised as a whole only if it survives the cut
at separators. `listed_word_exempt_iff` says which allowed words pass whatever follows them: those whose
first part between separators is the word itself, or passes on its own account. Of the well-known names
one does not survive: it holds a hyphen.
-/

namespace CuratedList
set_option autoImplicit false

open Text

/-- The same judgements, but with these words allowed. -/
def Context.allowing (cx : Context) (allowed : String → Bool) : Context :=
  { cx with isAllowed := allowed }

theorem isAcceptedWord_of_isAllowed {cx : Context} {word : List Char}
    (allowed : cx.isAllowed (String.ofList word) = true) : isAcceptedWord cx word = true := by
  simp only [isAcceptedWord, isExemptWord, allowed, Bool.or_true, Bool.true_or]

theorem checkFirstWord_eq_ok_iff (cx : Context) (dash : List Char) (span : Span) :
    checkFirstWord cx dash span = .ok () ↔
      ∃ word, FirstWord (dash.drop 3) word ∧ isAcceptedWord cx word = true := by
  simp only [← words_head?_eq_some_iff]
  rw [checkFirstWord]
  cases (words (dash.drop 3)).head? with
  | none => simp [reject]
  | some word => simp [reject]

/-- After the dash, the rule judges the first word before the blank, or else the first one after it. -/
theorem checkFirstWord_spaced_eq_ok_iff (cx : Context) (lead rest : List Char) (span : Span) :
    checkFirstWord cx (dashSeparator ++ lead ++ ' ' :: rest) span = .ok () ↔
      ∃ word, (FirstWord lead word ∨ (∀ c ∈ lead, isSeparator c = true) ∧ FirstWord rest word) ∧
        isAcceptedWord cx word = true := by
  have blank : isSeparator ' ' = true := by decide
  have afterDash : (dashSeparator ++ lead ++ ' ' :: rest).drop 3 = lead ++ ' ' :: rest := rfl
  simp only [checkFirstWord_eq_ok_iff, afterDash, firstWord_append_separator_iff lead rest _ blank]

/-- A listed word is exempt from the casing rule, whatever follows it, exactly if it has a first part
between separators and this part is the whole word or passes the rule by itself. -/
theorem listed_word_exempt_iff (cx : Context) (ids : Identifiers) {w : String}
    (listed : ids.contains w = true) (span : Span) :
    (∀ rest : List Char,
      checkFirstWord (cx.allowing ids.contains) (dashSeparator ++ w.toList ++ ' ' :: rest) span =
        .ok ()) ↔
      ∃ word, FirstWord w.toList word ∧
        (word = w.toList ∨ isAcceptedWord (cx.allowing ids.contains) word = true) := by
  constructor
  · intro exempt
    obtain ⟨word, first | ⟨-, first⟩, accepted⟩ := (checkFirstWord_spaced_eq_ok_iff ..).1 (exempt [])
    · exact ⟨word, first, .inr accepted⟩
    · exact absurd first (not_firstWord_nil word)
  · rintro ⟨word, first, passes⟩ rest
    refine (checkFirstWord_spaced_eq_ok_iff ..).2 ⟨word, .inl first, ?_⟩
    rcases passes with rfl | accepted
    · refine isAcceptedWord_of_isAllowed ?_
      rw [String.ofList_toList]
      exact listed
    · exact accepted

/-- A dotted word passes by its first part, which starts with a capital. -/
theorem listed_word_exempt_iff_dotted :
    (Identifiers.empty.extend ["Node.js"]).contains "Node.js" = true ∧
    ∀ rest : List Char,
      checkFirstWord ((Context.standard .empty).allowing (Identifiers.empty.extend ["Node.js"]).contains)
        (dashSeparator ++ "Node.js".toList ++ ' ' :: rest) ⟨0, 0⟩ = .ok () := by
  have listed : (Identifiers.empty.extend ["Node.js"]).contains "Node.js" = true := by decide
  have first : FirstWord "Node.js".toList "Node".toList :=
    (words_head?_eq_some_iff _ _).1 (by decide)
  exact ⟨listed, (listed_word_exempt_iff _ _ listed _).2 ⟨_, first, .inr (by decide +kernel)⟩⟩

/-- A word of the list may be rejected: of this well-known name only the part before the hyphen is
looked up. -/
theorem hyphenated_word_is_rejected :
    ¬ ∀ (cx : Context) (ids : Identifiers) (w : String) (span : Span), ids.contains w = true →
      w ≠ "" → (∀ c ∈ w.toList, isBlank c = false) →
      ∀ rest : List Char,
        checkFirstWord (cx.allowing ids.contains) (dashSeparator ++ w.toList ++ ' ' :: rest) span =
          .ok () := by
  intro exempt
  have rejected : checkFirstWord ((Context.standard .empty).allowing Identifiers.builtin.contains)
      (dashSeparator ++ "rust-analyzer".toList ++ ' ' :: "client.".toList) ⟨0, 0⟩ ≠ .ok () := by
    decide +kernel
  have inked : ("rust-analyzer".toList.all fun c => !isBlank c) = true := by decide
  exact rejected (exempt (.standard .empty) .builtin "rust-analyzer" ⟨0, 0⟩ (by decide +kernel)
    (by decide) (by simpa only [List.all_eq_true, Bool.not_eq_true'] using inked) "client.".toList)

example : Identifiers.builtin.words.filter (fun w => w.toList.any isSeparator) = ["rust-analyzer"] := by
  decide +kernel

end CuratedList
