import CuratedList.Proofs.Entry.FirstWord
import CuratedList.Proofs.Entry.Grammar
import CuratedList.Proofs.Lint.Reports

/-! # Allowing more words

The allowed words are asked for last: a rule that consults them has nothing to object to after them. So
when words are added, an entry keeps its verdict, or it was rejected for its casing and is accepted now
(`validateEntry_eased`). For a document this means that some reports on casing go and all else stays as
it was (`lintDocument_leavesOut_casing`).
-/

namespace CuratedList
set_option autoImplicit false

/-! ## Verdicts that get better -/

/-- The second verdict is the first one, or accepts what the first rejected for its casing. -/
inductive Eased : (before after : Verdict) → Prop
  | same (v : Verdict) : Eased v v
  | cased (span : Span) : Eased (reject .invalidCasing span) (.ok ())

namespace Eased

/-- What comes before the last step decides the same in both runs. -/
theorem bind {α : Type} (x : Except Violation α) {f g : α → Verdict}
    (last : ∀ a, Eased (f a) (g a)) : Eased (x >>= f) (x >>= g) := by
  cases x with
  | error v => exact .same (.error v)
  | ok a => exact last a

end Eased

/-! ## The rules that ask for no word -/

section

variable (cx : Context) (allowed : String → Bool)

theorem validateLink_allowing (link : Inline) :
    validateLink (cx.allowing allowed) link = validateLink cx link := rfl

theorem isSpecialCase_allowing (text : List Char) :
    isSpecialCase (cx.allowing allowed) text = isSpecialCase cx text := rfl

theorem checkSeparator_allowing (first : Inline) (rest : List Inline) (text : List Char) :
    checkSeparator (cx.allowing allowed) first rest text = checkSeparator cx first rest text := rfl

theorem checkEnding_allowing (kept : List Inline) (hasBadges : Bool) (last : Inline) :
    checkEnding (cx.allowing allowed) kept hasBadges last = checkEnding cx kept hasBadges last := rfl

end

/-! ## The rules under more allowed words -/

section

variable (cx : Context) {few more : String → Bool} (grow : ∀ w, few w = true → more w = true)

include grow

theorem isAcceptedWord_allowing {word : List Char}
    (accepted : isAcceptedWord (cx.allowing few) word = true) :
    isAcceptedWord (cx.allowing more) word = true := by
  simp only [isAcceptedWord, isExemptWord, Context.allowing, Bool.or_eq_true] at accepted ⊢
  exact accepted.imp_left (Or.imp_right (grow _))

theorem checkFirstWord_eased (dash : List Char) (span : Span) :
    Eased (checkFirstWord (cx.allowing few) dash span)
      (checkFirstWord (cx.allowing more) dash span) := by
  rw [checkFirstWord, checkFirstWord]
  cases (Text.words (dash.drop 3)).head? with
  | none => exact .same _
  | some word =>
    by_cases before : isAcceptedWord (cx.allowing few) word = true
    · have after := isAcceptedWord_allowing cx grow before
      simp only [before, after]
      exact .same _
    · simp only [before]
      cases isAcceptedWord (cx.allowing more) word with
      | false => exact .same _
      | true => exact .cased span

theorem checkContent_eased (kept : List Inline) (dash : List Char) (span : Span) :
    Eased (checkContent (cx.allowing few) kept dash span)
      (checkContent (cx.allowing more) kept dash span) := by
  have word := checkFirstWord_eased cx grow dash span
  rw [checkContent, checkContent]
  split
  · exact word
  · split
    · exact .same _
    · split
      · exact word
      · exact .same _

theorem validateDescription_eased (description : List Inline) :
    Eased (validateDescription (cx.allowing few) description)
      (validateDescription (cx.allowing more) description) := by
  cases description with
  | nil => exact .same _
  | cons first rest =>
    cases exempt : isSpecialCase cx (Inline.plainTextAll (first :: rest)).toList with
    | true =>
      simp only [validateDescription, isSpecialCase_allowing, exempt, if_true]
      exact .same _
    | false =>
      simp only [validateDescription, isSpecialCase_allowing, checkSeparator_allowing,
        checkEnding_allowing, exempt, Bool.false_eq_true, if_false]
      refine .bind _ fun dash => ?_
      cases splitBadges (first :: rest) with
      | none => exact .same _
      | some parts =>
        obtain ⟨kept, hasBadges⟩ := parts
        cases found : kept.getLast? with
        | none =>
          simp only [found]
          exact .same _
        | some last =>
          simp only [found]
          exact .bind _ fun _ => checkContent_eased cx grow kept dash first.span

theorem validateEntry_eased (item : Item) :
    Eased (validateEntry (cx.allowing few) item) (validateEntry (cx.allowing more) item) := by
  simp only [validateEntry, validateLink_allowing]
  refine .bind _ fun parts => ?_
  cases parts with
  | textLed => exact .same _
  | linked link description =>
    exact .bind _ fun _ => validateDescription_eased cx grow description

end

/-! ## Lists with some elements left out -/

/-- The second list is the first one without some elements that satisfy `p`. -/
inductive LeavesOut {α : Type} (p : α → Prop) : List α → List α → Prop
  | nil : LeavesOut p [] []
  | keep (a : α) {as bs : List α} (rest : LeavesOut p as bs) : LeavesOut p (a :: as) (a :: bs)
  | drop {a : α} {as bs : List α} (may : p a) (rest : LeavesOut p as bs) :
      LeavesOut p (a :: as) bs

namespace LeavesOut

variable {α β : Type} {p : β → Prop}

theorem map {as bs : List α} (f : α → β) (h : LeavesOut (fun a => p (f a)) as bs) :
    LeavesOut p (as.map f) (bs.map f) := by
  induction h with
  | nil => exact .nil
  | keep a _ ih => exact .keep (f a) ih
  | drop may _ ih => exact .drop may ih

/-- Two ways to collect leave out what one of them collects and the other does not. -/
theorem filterMap {f g : α → Option β}
    (either : ∀ a, g a = f a ∨ g a = none ∧ ∃ b, f a = some b ∧ p b) (as : List α) :
    LeavesOut p (as.filterMap f) (as.filterMap g) := by
  induction as with
  | nil => exact .nil
  | cons a as ih =>
    rcases either a with same | ⟨none, b, found, may⟩
    · rw [List.filterMap_cons, List.filterMap_cons, same]
      cases f a with
      | none => exact ih
      | some b => exact .keep b ih
    · rw [List.filterMap_cons_some found, List.filterMap_cons_none none]
      exact .drop may ih

end LeavesOut

/-! ## Reports under more allowed words -/

namespace Linter

section

variable (cx : Context) (respectContents : Bool) {few more : String → Bool}
  (grow : ∀ w, few w = true → more w = true)

include grow

theorem violation?_allowing (item : Item) :
    (mk (cx.allowing more) respectContents).violation? item =
        (mk (cx.allowing few) respectContents).violation? item ∨
      (mk (cx.allowing more) respectContents).violation? item = none ∧
        ∃ v, (mk (cx.allowing few) respectContents).violation? item = some v ∧
          v.kind = .invalidCasing := by
  have eased := validateEntry_eased cx grow item
  simp only [violation?]
  generalize validateEntry (cx.allowing few) item = before at eased
  generalize validateEntry (cx.allowing more) item = after at eased
  cases eased with
  | same v => exact .inl rfl
  | cased span => exact .inr ⟨rfl, ⟨.invalidCasing, span⟩, rfl, rfl⟩

/-- Under more allowed words a document has the same reports in the same order, except that some on
casing are left out. -/
theorem lintDocument_leavesOut_casing (source : List Char) (doc : Document) :
    LeavesOut (fun d => d.kind = .invalidCasing)
      ((mk (cx.allowing few) respectContents).lintDocument source doc)
      ((mk (cx.allowing more) respectContents).lintDocument source doc) := by
  rw [lintDocument_eq, lintDocument_eq, violations_eq, violations_eq]
  exact .map _ (.filterMap (violation?_allowing cx respectContents grow) _)

end

/-- Entries that name their links by label. -/
def labelledEntries : Document where
  blocks := [.list
    ([" - git client.", " - npm client.", " - tool.", " - npm client"].map fun description =>
      .mk [.paragraph [.linkReference [.text "A" {}] {}, .text description {}] {}] {}) {}]

theorem lintDocument_leavesOut_casing_labelled :
    (∀ w, (Identifiers.empty.insert "git").contains w = true →
      Identifiers.builtin.contains w = true) ∧
    LeavesOut (fun d => d.kind = .invalidCasing)
      ((mk ((Context.standard .empty).allowing (Identifiers.empty.insert "git").contains)
        true).lintDocument [] labelledEntries)
      ((mk ((Context.standard .empty).allowing Identifiers.builtin.contains)
        true).lintDocument [] labelledEntries) := by
  have grow : ∀ w, (Identifiers.empty.insert "git").contains w = true →
      Identifiers.builtin.contains w = true := by
    intro w listed
    rw [Identifiers.contains_insert] at listed
    obtain rfl : w = "git" := by simpa [Identifiers.contains, Identifiers.empty] using listed
    decide +kernel
  exact ⟨grow, lintDocument_leavesOut_casing _ true grow [] labelledEntries⟩

example :
    (((mk ((Context.standard .empty).allowing (Identifiers.empty.insert "git").contains)
      true).lintDocument [] labelledEntries).map fun d => d.kind) =
        [.invalidCasing, .invalidCasing, .missingPunctuation] ∧
    (((mk ((Context.standard .empty).allowing Identifiers.builtin.contains)
      true).lintDocument [] labelledEntries).map fun d => d.kind) =
        [.invalidCasing, .missingPunctuation] := by
  decide +kernel

end Linter
end CuratedList
