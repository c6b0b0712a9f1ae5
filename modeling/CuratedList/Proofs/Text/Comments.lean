import CuratedList.Scope

/-! # Texts without comments

A comment opens with `<!--` and closes with the next `-->`. `Uncommented` says what is left of a text
when its comments are deleted from left to right, each as short as it can be, without saying how they are
found. A text leaves exactly one text (`Uncommented.unique`), the one that the scan gives
(`uncommented_iff`).
-/

namespace CuratedList
set_option autoImplicit false

def commentOpening : List Char := ['<', '!', '-', '-']

def commentClosing : List Char := ['-', '-', '>']

/-- `text` is `before`, a comment around `body`, and `after`. -/
def HasComment (text before body after : List Char) : Prop :=
  text = before ++ (commentOpening ++ (body ++ (commentClosing ++ after)))

/-- Deleting the comments of the first text leaves the second. -/
inductive Uncommented : List Char → List Char → Prop
  | plain {text : List Char} (none : ¬ ∃ before body after, HasComment text before body after) :
      Uncommented text text
  | cut {text before body after rest : List Char} (comment : HasComment text before body after)
      (first : ∀ b c d, HasComment text b c d → before.length ≤ b.length)
      (shortest : ∀ c d, HasComment text before c d → body.length ≤ c.length)
      (more : Uncommented after rest) :
      Uncommented text (before ++ rest)

/-- What is left is determined: the first comment is, by where it starts and how long it is. -/
theorem Uncommented.unique {text left right : List Char} (l : Uncommented text left)
    (r : Uncommented text right) : left = right := by
  induction l generalizing right with
  | plain none =>
    cases r with
    | plain => rfl
    | cut comment => exact absurd ⟨_, _, _, comment⟩ none
  | cut comment first shortest more ih =>
    cases r with
    | plain none => exact absurd ⟨_, _, _, comment⟩ none
    | cut comment' first' shortest' more' =>
      have front := Nat.le_antisymm (first _ _ _ comment') (first' _ _ _ comment)
      obtain ⟨rfl, tail⟩ := List.append_inj (comment.symm.trans comment') front
      have length := Nat.le_antisymm (shortest _ _ comment') (shortest' _ _ comment)
      obtain ⟨rfl, closing⟩ := List.append_inj (List.append_cancel_left tail) length
      obtain rfl := List.append_cancel_left closing
      rw [ih more']

/-! ## The scan for comments -/

theorem afterComment_cons (c : Char) (cs : List Char) :
    afterComment (c :: cs) =
      (Text.dropPrefix? commentClosing (c :: cs)).or (afterComment cs) := by
  rw [afterComment, ← commentClosing]
  cases Text.dropPrefix? commentClosing (c :: cs) <;> rfl

/-- The scan for the end of a comment stops at the first one. -/
theorem exists_body_of_afterComment {cs rest : List Char} (h : afterComment cs = some rest) :
    ∃ body, cs = body ++ (commentClosing ++ rest) ∧
      ∀ c d, cs = c ++ (commentClosing ++ d) → body.length ≤ c.length := by
  induction cs with
  | nil => cases h
  | cons c cs ih =>
    rw [afterComment_cons] at h
    cases here : Text.dropPrefix? commentClosing (c :: cs) with
    | some after =>
      obtain rfl : after = rest := by simpa [here] using h
      have split : c :: cs = commentClosing ++ after := Text.dropPrefix?_eq_some_iff.1 here
      exact ⟨[], split, fun _ _ _ => Nat.zero_le _⟩
    | none =>
      obtain ⟨body, split, shortest⟩ := ih (by simpa [here] using h)
      refine ⟨c :: body, by rw [List.cons_append, ← split], fun front d other => ?_⟩
      cases front with
      | nil =>
        -- a closing right here would have been found
        have found := Text.dropPrefix?_eq_some_iff.2 (other.trans (List.nil_append _))
        cases here.symm.trans found
      | cons e front =>
        obtain ⟨rfl, tail⟩ := List.cons.inj other
        exact Nat.succ_le_succ (shortest front d tail)

theorem isSome_afterComment (body rest : List Char) :
    (afterComment (body ++ (commentClosing ++ rest))).isSome = true := by
  induction body with
  | nil => rfl
  | cons c body ih => rw [List.cons_append, afterComment_cons, Option.isSome_or, ih, Bool.or_true]

theorem commentRest_eq_some_iff {cs rest : List Char} :
    commentRest cs = some rest ↔
      ∃ inside, cs = commentOpening ++ inside ∧ afterComment inside = some rest := by
  rw [commentRest, Option.bind_eq_some_iff]
  exact exists_congr fun inside => and_congr_left' Text.dropPrefix?_eq_some_iff

theorem not_hasComment_of_commentRest {text : List Char} (none : commentRest text = none)
    (body after : List Char) : ¬ HasComment text [] body after := by
  intro comment
  obtain ⟨rest, found⟩ := Option.isSome_iff_exists.1 (isSome_afterComment body after)
  cases none.symm.trans (commentRest_eq_some_iff.2 ⟨_, comment, found⟩)

/-- A character that opens no comment is kept. -/
theorem Uncommented.cons {c : Char} {text rest : List Char}
    (notHere : ∀ body after, ¬ HasComment (c :: text) [] body after)
    (h : Uncommented text rest) : Uncommented (c :: text) (c :: rest) := by
  have inTail {before body after : List Char} (comment : HasComment (c :: text) before body after) :
      ∃ front, before = c :: front ∧ HasComment text front body after := by
    cases before with
    | nil => exact absurd comment (notHere body after)
    | cons d front =>
      obtain ⟨rfl, tail⟩ := List.cons.inj comment
      exact ⟨front, rfl, tail⟩
  cases h with
  | plain none =>
    refine .plain ?_
    rintro ⟨before, body, after, comment⟩
    obtain ⟨front, -, tail⟩ := inTail comment
    exact none ⟨front, body, after, tail⟩
  | cut comment first shortest more =>
    have longer : HasComment (c :: text) (c :: _) _ _ := congrArg (List.cons c) comment
    refine .cut longer (fun before body after other => ?_)
      (fun body after other => ?_) more
    · obtain ⟨front, rfl, tail⟩ := inTail other
      exact Nat.succ_le_succ (first front body after tail)
    · exact shortest body after (List.cons.inj other).2

theorem uncommented_dropComments (text : List Char) : Uncommented text (dropComments text) := by
  fun_induction dropComments text with
  | case1 =>
    refine .plain ?_
    rintro ⟨before, body, after, comment⟩
    have length := congrArg List.length comment
    simp [commentOpening] at length
  | case2 c rest after found ih =>
    obtain ⟨inside, opening, closing⟩ := commentRest_eq_some_iff.1 found
    obtain ⟨body, split, shortest⟩ := exists_body_of_afterComment closing
    have comment : HasComment (c :: rest) [] body after := by
      rw [HasComment, opening, split, List.nil_append]
    refine .cut comment (fun _ _ _ _ => Nat.zero_le _) (fun longer d other => ?_) ih
    exact shortest longer d (List.append_cancel_left (opening.symm.trans other))
  | case3 c rest none ih => exact ih.cons (not_hasComment_of_commentRest none)

theorem uncommented_iff {text rest : List Char} :
    Uncommented text rest ↔ rest = dropComments text := by
  constructor
  · intro h
    exact h.unique (uncommented_dropComments text)
  · rintro rfl
    exact uncommented_dropComments text

end CuratedList
