import CuratedList.Files.Pattern

/-! # Names as patterns

A name can be searched for as it is if each sign of patterns in it stands between brackets (`Escapes`). What is
written so is a pattern, and it matches the name and nothing else (`Escapes.matches_name`).
-/

namespace CuratedList
set_option autoImplicit false

/-- The name, and how it is written as a pattern: the signs of patterns stand between brackets, and all other
characters stand as they are. -/
inductive Escapes : List Char → List Char → Prop
  | nil : Escapes [] []
  | sign {c : Char} {name written : List Char} (sign : c = '?' ∨ c = '*' ∨ c = '[' ∨ c = ']')
      (rest : Escapes name written) : Escapes (c :: name) ('[' :: c :: ']' :: written)
  | plain {c : Char} {name written : List Char} (plain : c ≠ '?' ∧ c ≠ '*' ∧ c ≠ '[' ∧ c ≠ ']')
      (rest : Escapes name written) : Escapes (c :: name) (c :: written)

/-- How a character of a name is written. -/
def escapedChar (c : Char) : List Char :=
  if ['?', '*', '[', ']'].contains c then ['[', c, ']'] else [c]

theorem escapedChar_of_sign {c : Char} (sign : c = '?' ∨ c = '*' ∨ c = '[' ∨ c = ']') :
    escapedChar c = ['[', c, ']'] := by
  simp [escapedChar, sign]

theorem escapedChar_of_plain {c : Char} (plain : c ≠ '?' ∧ c ≠ '*' ∧ c ≠ '[' ∧ c ≠ ']') :
    escapedChar c = [c] := by
  simp [escapedChar, plain]

theorem literalPattern_eq (name : String) :
    literalPattern name = String.ofList (name.toList.flatMap escapedChar) := rfl

namespace Escapes

/-- There is one way to write a name. -/
theorem iff_eq {name written : List Char} : Escapes name written ↔ written = name.flatMap escapedChar := by
  constructor
  · intro escapes
    induction escapes with
    | nil => rfl
    | sign sign _ ih => rw [List.flatMap_cons, escapedChar_of_sign sign, ih]; rfl
    | plain plain _ ih => rw [List.flatMap_cons, escapedChar_of_plain plain, ih]; rfl
  · rintro rfl
    induction name with
    | nil => exact .nil
    | cons c name ih =>
      rw [List.flatMap_cons]
      by_cases sign : c = '?' ∨ c = '*' ∨ c = '[' ∨ c = ']'
      · rw [escapedChar_of_sign sign]
        exact .sign sign ih
      · have plain : c ≠ '?' ∧ c ≠ '*' ∧ c ≠ '[' ∧ c ≠ ']' := by simpa only [not_or] using sign
        rw [escapedChar_of_plain plain]
        exact .plain plain ih

theorem getLast?_ne_slash {name written : List Char} (escapes : Escapes name written)
    (ends : name.getLast? ≠ some '/') : written.getLast? ≠ some '/' := by
  rw [iff_eq.1 escapes]
  rcases List.eq_nil_or_concat name with rfl | ⟨front, c, rfl⟩
  · simp
  · rw [List.concat_eq_append, List.getLast?_concat] at ends
    rw [List.concat_eq_append, List.flatMap_append, List.flatMap_singleton, escapedChar]
    split
    · simp
    · simpa using ends

/-- The token of one character of a name. -/
def token (c : Char) : PatternToken :=
  if ['?', '*', '[', ']'].contains c then .oneOf [⟨c, c⟩] else .char c

theorem anyHolds_single (c d : Char) : CharRange.anyHolds [⟨c, c⟩] d = (c == d) := by
  have between : c ≤ d ∧ d ≤ c ↔ c = d :=
    ⟨fun both => Char.le_antisymm both.1 both.2, by rintro rfl; exact ⟨Char.le_refl c, Char.le_refl c⟩⟩
  rw [Bool.eq_iff_iff]
  simpa [CharRange.anyHolds] using between

theorem allMatch_token (c d : Char) (ts : List PatternToken) (cs : List Char) :
    PatternToken.allMatch (token c :: ts) (d :: cs) = (c == d && PatternToken.allMatch ts cs) := by
  unfold token
  split
  · rw [PatternToken.allMatch, anyHolds_single]
  · rw [PatternToken.allMatch]

theorem allMatch_tokens_iff (name cs : List Char) :
    PatternToken.allMatch (name.map token) cs = true ↔ cs = name := by
  induction name generalizing cs with
  | nil => simp [PatternToken.allMatch]
  | cons c name ih =>
    cases cs with
    | nil =>
      rw [List.map_cons, token]
      split <;> simp [PatternToken.allMatch]
    | cons d cs =>
      rw [List.map_cons, allMatch_token, Bool.and_eq_true, ih, beq_iff_eq, List.cons.injEq]
      exact and_congr_left' eq_comm

theorem patternTokens_eq {name written : List Char} (escapes : Escapes name written) (before : Option Char)
    (pos : Nat) : patternTokens before pos written = .ok (name.map token) := by
  induction escapes generalizing before pos with
  | nil => rw [patternTokens]; rfl
  | @sign c name written sign _ ih =>
    have noBang : c ≠ '!' := by rintro rfl; revert sign; decide
    have body : classBody? (c :: ']' :: written) = some ([c], written) := rfl
    have here : token c = .oneOf (charRanges [c]) := by
      simp [token, sign, charRanges]
    rw [patternTokens]
    · split
      next body' rest found =>
        cases body.symm.trans found
        rw [ih, List.map_cons, here]
        rfl
      next none => cases body.symm.trans none
    · rintro cs ⟨⟩
      exact noBang rfl
  | @plain c name written plain _ ih =>
    have here : token c = .char c := by simp [token, plain]
    rw [patternTokens, ih, List.map_cons, here]
    · rfl
    -- no sign of patterns starts with this character
    all_goals simp [plain]

/-- What is written so is a pattern, which matches the name and nothing else. -/
theorem matches_name {name written : List Char} (escapes : Escapes name written) :
    ∃ ts, PatternToken.ofText (String.ofList written) = .ok ts ∧
      ∀ cs, PatternToken.allMatch ts cs = true ↔ cs = name := by
  refine ⟨name.map token, ?_, allMatch_tokens_iff name⟩
  rw [PatternToken.ofText, String.toList_ofList, escapes.patternTokens_eq]

end Escapes
end CuratedList
