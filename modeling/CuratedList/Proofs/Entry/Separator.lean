import CuratedList.Proofs.Entry.Exemptions
import CuratedList.Proofs.Entry.Sites

/-! # What is left behind the separator

A text that opens a description holds a dash, so it is no badge, and the scan for badges leaves at least
this text. Once the separator is found no description is therefore rejected for consisting of badges, and
the rule for texts alone applies exactly if there is nothing but badges behind the text
(`nodes_left_behind_separator`).
-/

namespace CuratedList
set_option autoImplicit false

open Text

/-- Before `badges` the nodes `kept` are left of `description`. They start with the text `dash`, at `span`,
and end in `last`, which is no badge. -/
structure KeepsNodes (dash : List Char) (span : Span) (description kept badges : List Inline)
    (last : Inline) : Prop where
  split : description = kept ++ badges
  allBadges : ∀ node ∈ badges, isBadge node = true
  head : kept.head? = some (.text (String.ofList dash) span)
  ends : kept.getLast? = some last
  noBadge : isBadge last = false

section

variable {cx : Context} {first : Inline} {rest : List Inline} {text dash : List Char}

/-- The node that opens a description is the text `dash`, and no badge. -/
theorem eq_text_of_checkSeparator (separated : checkSeparator cx first rest text = .ok dash) :
    first = .text (String.ofList dash) first.span ∧ isBadge first = false := by
  have opened := (checkSeparator_eq_ok_iff ..).1 separated
  constructor
  · obtain ⟨value, isText, rfl, -⟩ := (separatorText?_eq_some_iff ..).1 opened
    cases first with
    | text content span =>
      obtain rfl : content = value := by simpa [Inline.asText] using isText
      rw [String.ofList_toList]
      rfl
    | _ => cases isText
  · rw [Bool.eq_false_iff]
    intro badge
    rw [separatorText?_of_isBadge cx badge] at opened
    cases opened

theorem exists_keepsNodes (separated : checkSeparator cx first rest text = .ok dash) :
    ∃ before last badges,
      KeepsNodes dash first.span (first :: rest) (before ++ [last]) badges last := by
  obtain ⟨isText, noBadge⟩ := eq_text_of_checkSeparator separated
  rcases exists_last_kept (first :: rest) with only | ⟨before, last, badges, split, allBadges, inked⟩
  · rw [only first List.mem_cons_self] at noBadge
    cases noBadge
  · have whole : first :: rest = before ++ [last] ++ badges := by
      rw [split, List.append_assoc, List.singleton_append]
    refine ⟨before, last, badges, whole, allBadges, ?_, List.getLast?_concat, inked⟩
    rw [← isText, ← List.head?_append_of_ne_nil _ (List.concat_ne_nil last before), ← whole]
    rfl

/-- One node is left exactly if only badges follow it. -/
theorem KeepsNodes.length_eq_one_iff {span : Span} {before badges : List Inline} {last : Inline}
    (keeps : KeepsNodes dash span (first :: rest) (before ++ [last]) badges last) :
    (before ++ [last]).length = 1 ↔ ∀ node ∈ rest, isBadge node = true := by
  have split := keeps.split
  cases before with
  | nil =>
    obtain ⟨-, rfl⟩ := List.cons.inj split
    exact iff_of_true rfl keeps.allBadges
  | cons node before =>
    obtain ⟨-, rfl⟩ := List.cons.inj split
    refine iff_of_false (by simp) ?_
    intro only
    have badge := only last (by simp)
    rw [keeps.noBadge] at badge
    cases badge

/-- Neither the ending nor the content of a description is rejected for its badges. -/
theorem ne_onlyBadges (kept : List Inline) (hasBadges : Bool) (last : Inline) (span at' : Span) :
    (checkEnding cx kept hasBadges last >>= fun _ => checkContent cx kept dash span) ≠
      .error ⟨.onlyBadges, at'⟩ := by
  rcases checkEnding_cases cx kept hasBadges last with ended | rejected
  · rw [ended]
    show checkContent cx kept dash span ≠ _
    rcases checkContent_cases cx kept dash span with passed | word | ⟨node, -, markup⟩
    · rw [passed]
      nofun
    · rw [word]
      rcases checkFirstWord_cases cx dash span with verdict | verdict | verdict <;>
        (rw [verdict]; nofun)
    · rw [markup]
      nofun
  · rw [rejected]
    nofun

/-- Behind the separator the scan for badges leaves some nodes. They start with the text of the separator,
and end in no badge. So only the ending and the content decide, no description is rejected for its badges,
and the text is judged alone exactly if it is the only node before the badges. -/
theorem nodes_left_behind_separator
    (regular : isSpecialCase cx (Inline.plainTextAll (first :: rest)).toList = false)
    (separated :
      checkSeparator cx first rest (Inline.plainTextAll (first :: rest)).toList = .ok dash) :
    ∃ kept badges last, KeepsNodes dash first.span (first :: rest) kept badges last ∧
      splitBadges (first :: rest) = some (kept, decide (badges ≠ [])) ∧
      validateDescription cx (first :: rest) =
        (checkEnding cx kept (decide (badges ≠ [])) last >>= fun _ =>
          checkContent cx kept dash first.span) ∧
      (∀ span, validateDescription cx (first :: rest) ≠ .error ⟨.onlyBadges, span⟩) ∧
      (kept.length = 1 ↔ ∀ node ∈ rest, isBadge node = true) := by
  obtain ⟨before, last, badges, keeps⟩ := exists_keepsNodes separated
  have split : first :: rest = before ++ last :: badges := by
    rw [keeps.split, List.append_assoc, List.singleton_append]
  have judged :=
    validateDescription_of_checkSeparator cx regular separated split keeps.allBadges keeps.noBadge
  refine ⟨before ++ [last], badges, last, keeps, ?_, judged, ?_, keeps.length_eq_one_iff⟩
  · rw [split, splitBadges_append keeps.allBadges keeps.noBadge]
  · intro span
    rw [judged]
    exact ne_onlyBadges _ _ _ _ _

end

/-- Nodes that follow a separator: a code span in the text, and two badges at the end. -/
def versionNodes : List Inline :=
  [.code "v2" ⟨34, 38⟩, .text " on iOS. " ⟨38, 47⟩, .code "v1" ⟨47, 51⟩, .text " " ⟨51, 52⟩]

theorem nodes_left_behind_separator_versions :
    isSpecialCase (.standard .builtin)
      (Inline.plainTextAll (.text " - Runs " ⟨26, 34⟩ :: versionNodes)).toList = false ∧
    checkSeparator (.standard .builtin) (.text " - Runs " ⟨26, 34⟩) versionNodes
      (Inline.plainTextAll (.text " - Runs " ⟨26, 34⟩ :: versionNodes)).toList =
        .ok " - Runs ".toList ∧
    ∃ kept badges last,
      KeepsNodes " - Runs ".toList ⟨26, 34⟩ (.text " - Runs " ⟨26, 34⟩ :: versionNodes) kept badges last ∧
      splitBadges (.text " - Runs " ⟨26, 34⟩ :: versionNodes) = some (kept, decide (badges ≠ [])) ∧
      kept.length ≠ 1 := by
  have regular : isSpecialCase (.standard .builtin)
      (Inline.plainTextAll (.text " - Runs " ⟨26, 34⟩ :: versionNodes)).toList = false := by
    decide +kernel
  have separated : checkSeparator (.standard .builtin) (.text " - Runs " ⟨26, 34⟩) versionNodes
      (Inline.plainTextAll (.text " - Runs " ⟨26, 34⟩ :: versionNodes)).toList =
        .ok " - Runs ".toList := by
    decide +kernel
  obtain ⟨kept, badges, last, keeps, split, -, -, alone⟩ :=
    nodes_left_behind_separator regular separated
  refine ⟨regular, separated, kept, badges, last, keeps, split, ?_⟩
  rw [Ne, alone]
  intro only
  have inked : isBadge (.text " on iOS. " ⟨38, 47⟩) = false := by decide
  rw [only _ (by simp [versionNodes])] at inked
  cases inked

end CuratedList
