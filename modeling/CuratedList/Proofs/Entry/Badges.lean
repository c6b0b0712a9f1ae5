import CuratedList.Check
import CuratedList.Proofs.Entry.Grammar
import CuratedList.Proofs.Text.Words
import Mathlib.Data.List.Basic

/-! # Trailing badges

A description that opens with the separator may end in badges, and they make no difference to what is
said about it (`validateDescription_trailing_badges`). White space that parts the last text from the
badges makes none either. It is cut off before the ending is judged, and it adds no word where the last
text is also the first.
-/

namespace CuratedList
set_option autoImplicit false

open Text

/-! ## White space at the end -/

theorem trimEnd_append_of_blank (cs : List Char) {blank : List Char}
    (blanks : ∀ c ∈ blank, isBlank c = true) : trimEnd (cs ++ blank) = trimEnd cs :=
  dropWhileEnd_append cs blanks

theorem trimEnd_of_getLast? {cs : List Char} (inked : ∀ c ∈ cs.getLast?, isBlank c = false) :
    trimEnd cs = cs :=
  dropWhileEnd_of_getLast? inked

theorem isSeparator_of_isBlank {c : Char} (blank : isBlank c = true) : isSeparator c = true := by
  simp only [isSeparator, blank, Bool.true_or]

/-! ## The last node with white space after it -/

/-- The node with `blank` at the end of its text, if it is a text. -/
def Inline.withTrail (blank : String) : Inline → Inline
  | .text value span => .text (value ++ blank) span
  | node => node

@[simp] theorem Inline.kind_withTrail (blank : String) (node : Inline) :
    (node.withTrail blank).kind = node.kind := by
  cases node <;> rfl

@[simp] theorem Inline.span_withTrail (blank : String) (node : Inline) :
    (node.withTrail blank).span = node.span := by
  cases node <;> rfl

theorem isBadge_withTrail (blank : String) {node : Inline} (noBadge : isBadge node = false) :
    isBadge (node.withTrail blank) = false := by
  cases node with
  | text value span =>
    have inked : allBlank value.toList = false := noBadge
    simp only [Inline.withTrail, isBadge, allBlank, String.toList_append, List.all_append] at inked ⊢
    rw [inked, Bool.false_and]
  | _ => exact noBadge

section

variable (cx : Context) (before : List Inline) {last : Inline} {blank : String}

/-- Before badges the ending is judged without the white space, so it is judged as without badges. -/
theorem checkEnding_withTrail (noBadge : isBadge last = false)
    (inked : ∀ value span, last = .text value span →
      ∀ c ∈ value.toList.getLast?, isBlank c = false)
    (blanks : ∀ c ∈ blank.toList, isBlank c = true) :
    checkEnding cx (before ++ [last.withTrail blank]) true (last.withTrail blank) =
      checkEnding cx (before ++ [last]) false last := by
  cases last with
  | text value span =>
    have inked := inked value span rfl
    have suffix : trimEnd (value ++ blank).toList = value.toList := by
      rw [String.toList_append, trimEnd_append_of_blank _ blanks, trimEnd_of_getLast? inked]
    have text (v : String) : (Inline.plainTextAll (before ++ [.text v span])).toList =
        (Inline.plainTextAll before).toList ++ v.toList := by
      simp only [Inline.plainTextAll_append, Inline.plainTextAll, Inline.plainText,
        String.append_empty, String.toList_append]
    have full : trimEnd (Inline.plainTextAll (before ++ [.text (value ++ blank) span])).toList =
        (Inline.plainTextAll (before ++ [.text value span])).toList := by
      rw [text, text, String.toList_append, ← List.append_assoc, trimEnd_append_of_blank _ blanks]
      refine trimEnd_of_getLast? fun c member => inked c ?_
      -- the text is no badge, so the last character of the whole is the last one of this text
      have some : value.toList ≠ [] := by
        intro none
        simp [isBadge, allBlank, none] at noBadge
      rwa [List.getLast?_append_of_ne_nil _ some] at member
    simp only [checkEnding, Inline.withTrail, Inline.kind, Inline.asText, Inline.span, if_true,
      Bool.false_eq_true, if_false, suffix, full]
  | _ => rfl

theorem checkFirstWord_append_blank {dash : List Char} (opens : dashSeparator <+: dash)
    {blank : List Char} (blanks : ∀ c ∈ blank, isBlank c = true) (span : Span) :
    checkFirstWord cx (dash ++ blank) span = checkFirstWord cx dash span := by
  obtain ⟨rest, rfl⟩ := opens
  have afterDash (cs : List Char) : (dashSeparator ++ cs).drop 3 = cs := rfl
  rw [checkFirstWord, checkFirstWord, List.append_assoc, afterDash, afterDash,
    words_append_separators rest fun c member => isSeparator_of_isBlank (blanks c member)]

theorem checkContent_withTrail (several : before ≠ []) (dash : List Char) (span : Span) :
    checkContent cx (before ++ [last.withTrail blank]) dash span =
      checkContent cx (before ++ [last]) dash span := by
  have length (node : Inline) : (before ++ [node]).length ≠ 1 := by
    have := List.length_pos_iff.2 several
    simp only [List.length_append, List.length_singleton]
    omega
  simp only [checkContent, length, if_false, List.find?_append, List.find?_singleton,
    Inline.kind_withTrail]
  cases before.find? fun node => !isDescriptionKind node.kind with
  | some node => rfl
  | none => cases isDescriptionKind last.kind <;> simp

end

/-! ## Descriptions that open with the separator -/

section

variable (cx : Context) {before badges : List Inline} {last : Inline} {dash blank : String}
  {span : Span}

/-- Behind the separator, a description is judged by its ending and its content before the badges. -/
theorem validateDescription_of_separator
    (head : (before ++ last :: badges).head? = some (.text dash span))
    (opens : dashSeparator <+: dash.toList) (noBadge : isBadge last = false)
    (allBadges : ∀ node ∈ badges, isBadge node = true) :
    validateDescription cx (before ++ last :: badges) =
      (checkEnding cx (before ++ [last]) (decide (badges ≠ [])) last >>= fun _ =>
        checkContent cx (before ++ [last]) dash.toList span) := by
  obtain ⟨rest, nodes⟩ := List.head?_eq_some_iff.1 head
  have starts : dashSeparator <+: (Inline.plainTextAll (.text dash span :: rest)).toList := by
    rw [Inline.plainTextAll, Inline.plainText, String.toList_append]
    exact opens.trans (List.prefix_append ..)
  have regular : isSpecialCase cx (Inline.plainTextAll (.text dash span :: rest)).toList = false := by
    rw [isSpecialCase, if_pos (List.isPrefixOf_iff_prefix.2 starts)]
  have separator (text : List Char) :
      checkSeparator cx (.text dash span) rest text = .ok dash.toList :=
    (checkSeparator_eq_ok_iff ..).2
      ((separatorText?_eq_some_iff ..).2 ⟨dash, rfl, rfl, .inl opens⟩)
  rw [nodes]
  exact validateDescription_of_checkSeparator cx regular (separator _) nodes.symm allBadges noBadge

/-- White space after the last node keeps the separator, and the content behind it. -/
theorem exists_dash_withTrail (badges : List Inline)
    (head : (before ++ [last]).head? = some (.text dash span))
    (opens : dashSeparator <+: dash.toList) (blanks : ∀ c ∈ blank.toList, isBlank c = true) :
    ∃ dash' : String,
      (before ++ last.withTrail blank :: badges).head? = some (.text dash' span) ∧
      dashSeparator <+: dash'.toList ∧
      checkContent cx (before ++ [last.withTrail blank]) dash'.toList span =
        checkContent cx (before ++ [last]) dash.toList span := by
  cases before with
  | nil =>
    obtain rfl : last = .text dash span := by simpa using head
    refine ⟨dash ++ blank, rfl, ?_, ?_⟩
    · rw [String.toList_append]
      exact opens.trans (List.prefix_append ..)
    · simp only [checkContent, List.nil_append, List.length_singleton, if_true, String.toList_append]
      exact checkFirstWord_append_blank cx opens blanks span
  | cons first before =>
    exact ⟨dash, head, opens, checkContent_withTrail cx _ (List.cons_ne_nil _ _) _ _⟩

/-- Badges at the end of a description do not change the verdict, with or without white space that
parts them from a text before them. -/
theorem validateDescription_trailing_badges
    (head : (before ++ [last]).head? = some (.text dash span))
    (opens : dashSeparator <+: dash.toList) (noBadge : isBadge last = false)
    (inked : ∀ value span, last = .text value span →
      ∀ c ∈ value.toList.getLast?, isBlank c = false)
    (blanks : ∀ c ∈ blank.toList, isBlank c = true)
    (some : badges ≠ []) (allBadges : ∀ node ∈ badges, isBadge node = true) :
    validateDescription cx (before ++ last.withTrail blank :: badges) =
      validateDescription cx (before ++ [last]) := by
  obtain ⟨dash', head', opens', content⟩ :=
    exists_dash_withTrail cx badges head opens blanks
  calc validateDescription cx (before ++ last.withTrail blank :: badges)
    _ = (checkEnding cx (before ++ [last.withTrail blank]) (decide (badges ≠ []))
          (last.withTrail blank) >>= fun _ =>
        checkContent cx (before ++ [last.withTrail blank]) dash'.toList span) :=
      validateDescription_of_separator cx head' opens' (isBadge_withTrail blank noBadge) allBadges
    _ = (checkEnding cx (before ++ [last]) false last >>= fun _ =>
        checkContent cx (before ++ [last]) dash.toList span) := by
      rw [decide_eq_true some, checkEnding_withTrail cx before noBadge inked blanks, content]
    _ = validateDescription cx (before ++ [last]) := by
      rw [validateDescription_of_separator cx head opens noBadge (by simp)]
      rfl

end

theorem validateDescription_trailing_badges_mixed :
    dashSeparator <+: " - Runs on ".toList ∧
    isBadge (.text ". Also macOS (beta)" ⟨18, 38⟩) = false ∧
    (∀ c ∈ ". Also macOS (beta)".toList.getLast?, isBlank c = false) ∧
    (∀ c ∈ " \t".toList, isBlank c = true) ∧
    (∀ node ∈ [Inline.code "v0" ⟨40, 44⟩, .text " " ⟨44, 45⟩, .code "v1" ⟨45, 49⟩],
      isBadge node = true) ∧
    validateDescription (.standard .builtin)
        ([.text " - Runs on " ⟨0, 11⟩, .strong [.text "iOS" ⟨13, 16⟩] ⟨11, 18⟩] ++
          (Inline.text ". Also macOS (beta)" ⟨18, 38⟩).withTrail " \t" ::
          [.code "v0" ⟨40, 44⟩, .text " " ⟨44, 45⟩, .code "v1" ⟨45, 49⟩]) =
      validateDescription (.standard .builtin)
        ([.text " - Runs on " ⟨0, 11⟩, .strong [.text "iOS" ⟨13, 16⟩] ⟨11, 18⟩] ++
          [.text ". Also macOS (beta)" ⟨18, 38⟩]) := by
  have opens : dashSeparator <+: " - Runs on ".toList := by decide
  have noBadge : isBadge (.text ". Also macOS (beta)" ⟨18, 38⟩) = false := by decide
  have inked : ∀ c ∈ ". Also macOS (beta)".toList.getLast?, isBlank c = false := by
    have last : ". Also macOS (beta)".toList.getLast? = some ')' := by decide
    rw [last]
    rintro _ ⟨⟩
    decide
  have blank : ∀ c ∈ " \t".toList, isBlank c = true := List.all_eq_true.1 (by decide)
  have allBadges : ∀ node ∈ [Inline.code "v0" ⟨40, 44⟩, .text " " ⟨44, 45⟩, .code "v1" ⟨45, 49⟩],
      isBadge node = true := by
    simp only [List.forall_mem_cons]
    decide
  refine ⟨opens, noBadge, inked, blank, allBadges,
    validateDescription_trailing_badges _ rfl opens noBadge ?_ blank (List.cons_ne_nil _ _) allBadges⟩
  rintro _ _ ⟨⟩
  exact inked

end CuratedList
