import CuratedList.Text.Emoji
import Mathlib.Data.List.Basic
import Mathlib.Data.List.TakeWhile

/-! # The length of an emoji

The preferred match of the pattern of emoji, measured from left to right and without a search
(`matchLength_emojiPattern`). Of all parts of the pattern only the tags can be given up again, where they are
not closed; every other part that matches is part of the match.
-/

namespace CuratedList.Text
set_option autoImplicit false

/-! ## Preferred matches -/

namespace Pattern

theorem repeated_eq (step : List Char → List (List Char)) (cs : List Char) :
    repeated step cs =
      ((step cs).flatMap fun rest => if rest.length < cs.length then repeated step rest else []) ++
        [cs] := by
  rw [repeated]
  rfl

theorem length_le_of_mem_repeated {step : List Char → List (List Char)}
    {cs rest : List Char} (left : rest ∈ repeated step cs) : rest.length ≤ cs.length := by
  induction size : cs.length using Nat.strong_induction_on generalizing cs with
  | h n ih =>
    rw [repeated_eq, List.mem_append, List.mem_flatMap, List.mem_singleton] at left
    rcases left with ⟨after, -, later⟩ | rfl
    · split at later
      next shorter =>
        have := ih after.length (by omega) later rfl
        omega
      next => cases later
    · omega

theorem length_le_of_mem_rests (p : Pattern) {cs rest : List Char} (left : rest ∈ p.rests cs) :
    rest.length ≤ cs.length := by
  induction p generalizing cs rest with
  | char holds =>
    cases cs with
    | nil => simp at left
    | cons c cs =>
      rw [rests_char_cons] at left
      split at left
      · simp only [List.mem_singleton] at left
        simp [left]
      · cases left
  | seq first second ihFirst ihSecond =>
    rw [rests_seq, List.mem_flatMap] at left
    obtain ⟨between, here, there⟩ := left
    exact (ihSecond there).trans (ihFirst here)
  | either first second ihFirst ihSecond =>
    rw [rests_either, List.mem_append] at left
    exact left.elim ihFirst ihSecond
  | optional body ih =>
    rw [rests_optional, List.mem_append, List.mem_singleton] at left
    rcases left with taken | rfl
    · exact ih taken
    · exact Nat.le_refl _
  | many body ih => exact length_le_of_mem_repeated (rests_many body cs ▸ left)

/-- A second part that always matches is tried on the preferred match of the first one only. -/
theorem head?_rests_seq {first second : Pattern} (always : ∀ rest, second.rests rest ≠ [])
    (cs : List Char) :
    ((seq first second).rests cs).head? =
      (first.rests cs).head?.bind fun rest => (second.rests rest).head? := by
  rw [rests_seq]
  cases first.rests cs with
  | nil => rfl
  | cons rest others =>
    rw [List.flatMap_cons, List.head?_append]
    cases found : second.rests rest with
    | nil => exact absurd found (always rest)
    | cons after others => simp [found]

theorem rests_optional_ne_nil (body : Pattern) (cs : List Char) : (optional body).rests cs ≠ [] := by
  simp

theorem rests_many_ne_nil (body : Pattern) (cs : List Char) : (many body).rests cs ≠ [] := by
  rw [rests_many, repeated_eq]
  simp

/-- The preferred match has this length, which is 0 exactly if there is no match. -/
def Measured (p : Pattern) (len : List Char → Nat) : Prop :=
  ∀ cs, (p.rests cs).head? = if len cs = 0 then none else some (cs.drop (len cs))

variable {p q : Pattern} {len more : List Char → Nat}

theorem Measured.matchLength (measured : p.Measured len) (bounded : ∀ cs, len cs ≤ cs.length) :
    p.matchLength = len := by
  funext cs
  have within := bounded cs
  rw [Pattern.matchLength, measured cs]
  by_cases none : len cs = 0
  · simp [none]
  · simp only [none, if_false, List.length_drop]
    omega

theorem Measured.either (first : p.Measured len) (second : q.Measured more) :
    (either p q).Measured fun cs => if len cs ≠ 0 then len cs else more cs := by
  intro cs
  rw [rests_either, List.head?_append, first cs, second cs]
  by_cases none : len cs = 0 <;> simp [none]

theorem Measured.optional (measured : p.Measured len) (cs : List Char) :
    ((optional p).rests cs).head? = some (cs.drop (len cs)) := by
  rw [rests_optional, List.head?_append, measured cs]
  by_cases none : len cs = 0 <;> simp [none]

end Pattern

open Pattern

/-! ## Flags, keycaps and atoms -/

/-- The number of characters of the flag at the start, 0 if there is none. -/
def flagLength : List Char → Nat
  | a :: b :: _ => if isRegionalIndicator a && isRegionalIndicator b then 2 else 0
  | _ => 0

/-- The number of characters of the keycap at the start, 0 if there is none. -/
def keycapLength : List Char → Nat
  | a :: b :: rest =>
    if !isKeycapBase a then 0
    else if b.toNat == 0x20E3 then 2
    else if b.toNat == 0xFE0F && (rest.head?.any fun c => c.toNat == 0x20E3) then 3
    else 0
  | _ => 0

/-- The number of characters of the closed tag sequence at the start, 0 if there is none. -/
def tagsLength (cs : List Char) : Nat :=
  let tags := cs.takeWhile isTag
  if !tags.isEmpty && ((cs.drop tags.length).head?.any fun c => c.toNat == 0xE007F) then
    tags.length + 1
  else 0

/-- The number of characters of the atom at the start, 0 if there is none. -/
def atomLength : List Char → Nat
  | [] => 0
  | c :: cs =>
    if !isPictographic c then 0
    else
      let variant := if cs.head?.any isEmojiVariant then 1 else 0
      1 + variant + tagsLength (cs.drop variant)

theorem atomLength_le (cs : List Char) : atomLength cs ≤ cs.length := by
  have tags (cs : List Char) : tagsLength cs ≤ cs.length := by
    have split := congrArg List.length (List.takeWhile_append_dropWhile (p := isTag) (l := cs))
    simp only [List.length_append] at split
    simp only [tagsLength]
    split
    next h =>
      have := (Bool.and_eq_true_iff.1 h).2
      cases e : cs.drop (cs.takeWhile isTag).length with
      | nil => simp [e] at this
      | cons c rest =>
        have := congrArg List.length e
        simp only [List.length_drop, List.length_cons] at this
        omega
    next => omega
  cases cs with
  | nil => simp [atomLength]
  | cons c cs =>
    simp only [atomLength]
    split
    · simp
    · cases cs with
      | nil => simp [tagsLength]
      | cons d ds =>
        split
        · have := tags ds
          simp only [List.drop_succ_cons, List.drop_zero, List.length_cons]
          omega
        · have := tags (d :: ds)
          simp only [List.drop_zero, List.length_cons] at this ⊢
          omega

theorem measured_flagPattern : flagPattern.Measured flagLength := by
  intro cs
  match cs with
  | [] => simp [flagPattern, flagLength]
  | [a] => cases letter : isRegionalIndicator a <;> simp [flagPattern, flagLength, letter]
  | a :: b :: rest =>
    cases first : isRegionalIndicator a <;> cases second : isRegionalIndicator b <;>
      simp [flagPattern, flagLength, first, second]

theorem measured_keycapPattern : keycapPattern.Measured keycapLength := by
  intro cs
  match cs with
  | [] => simp [keycapPattern, keycapLength]
  | [a] => cases base : isKeycapBase a <;> simp [keycapPattern, keycapLength, base]
  | [a, b] =>
    cases base : isKeycapBase a <;> cases cap : b.toNat == 0x20E3 <;>
      simp_all [keycapPattern, keycapLength]
  | a :: b :: c :: rest =>
    cases base : isKeycapBase a with
    | false => simp [keycapPattern, keycapLength, base]
    | true =>
      cases selector : b.toNat == 0xFE0F with
      | false => cases cap : b.toNat == 0x20E3 <;> simp_all [keycapPattern, keycapLength]
      | true => cases cap : c.toNat == 0x20E3 <;> simp_all [keycapPattern, keycapLength]

theorem flatMap_rests_tags (cs : List Char) :
    ((many (char isTag)).rests cs).flatMap (code 0xE007F).rests =
      if ((cs.drop (cs.takeWhile isTag).length).head?.any fun c => c.toNat == 0xE007F) then
        [cs.drop ((cs.takeWhile isTag).length + 1)]
      else [] := by
  rw [rests_many]
  induction cs with
  | nil => simp [repeated_eq]
  | cons c cs ih =>
    rw [repeated_eq]
    by_cases tag : isTag c = true
    · -- what closes tags is no tag, so only the longest way to take them can be closed
      have unclosed : (c.toNat == 0xE007F) = false := by
        simp only [isTag, Bool.and_eq_true, decide_eq_true_eq] at tag
        simp only [beq_eq_false_iff_ne]
        omega
      simp [tag, ih, unclosed]
    · simp [tag]

theorem measured_tagsPattern : tagsPattern.Measured tagsLength := by
  intro cs
  cases cs with
  | nil => simp [tagsPattern, tagsLength]
  | cons c cs =>
    by_cases tag : isTag c = true
    · have closed := flatMap_rests_tags cs
      simp only [tagsPattern, rests_seq, rests_char_cons, tag, if_true, List.flatMap_singleton, closed]
      split
      next found => simp_all [tagsLength]
      next missing => simp_all [tagsLength]
    · simp [tagsPattern, tagsLength, tag]

theorem measured_atomPattern : atomPattern.Measured atomLength := by
  intro cs
  cases cs with
  | nil => simp [atomPattern, atomLength]
  | cons c cs =>
    have more (cs : List Char) :
        ((seq (optional (char isEmojiVariant)) (optional tagsPattern)).rests cs).head? =
          let variant := if cs.head?.any isEmojiVariant then 1 else 0
          some (cs.drop (variant + tagsLength (cs.drop variant))) := by
      rw [head?_rests_seq (rests_optional_ne_nil tagsPattern)]
      simp only [measured_tagsPattern.optional]
      cases cs with
      | nil => simp
      | cons d ds => cases variant : isEmojiVariant d <;> simp [variant, Nat.add_comm 1]
    by_cases picture : isPictographic c = true
    · have length : atomLength (c :: cs) =
          (let variant := if cs.head?.any isEmojiVariant then 1 else 0
          variant + tagsLength (cs.drop variant)) + 1 := by
        simp only [atomLength, picture, Bool.not_true, Bool.false_eq_true, if_false]
        omega
      rw [atomPattern, rests_seq, rests_char_cons, if_pos picture, List.flatMap_singleton, more, length,
        if_neg (Nat.succ_ne_zero _), List.drop_succ_cons]
    · simp [atomPattern, atomLength, picture]

/-! ## Chains -/

/-- The number of characters of the chain of atoms at the start, 0 if there is none. -/
def chainLength (cs : List Char) : Nat :=
  let first := atomLength cs
  if _h : first = 0 then 0
  else
    match e : cs.drop first with
    | [] => first
    | joiner :: rest =>
      if joiner.toNat == 0x200D then
        let more := chainLength rest
        if more = 0 then first else first + 1 + more
      else first
  termination_by cs.length
  decreasing_by
    have := congrArg List.length e
    simp only [List.length_drop, List.length_cons] at this
    omega

theorem chainLength_eq (cs : List Char) :
    chainLength cs =
      if atomLength cs = 0 then 0
      else
        match cs.drop (atomLength cs) with
        | [] => atomLength cs
        | joiner :: rest =>
          if joiner.toNat == 0x200D then
            if chainLength rest = 0 then atomLength cs else atomLength cs + 1 + chainLength rest
          else atomLength cs := by
  rw [chainLength]
  split
  · rfl
  · split
    next e => rw [e]
    next e => rw [e]

theorem length_drop_atom {cs rest : List Char} {joiner : Char}
    (after : cs.drop (atomLength cs) = joiner :: rest) :
    atomLength cs + 1 + rest.length = cs.length := by
  have lengths := congrArg List.length after
  rw [List.length_drop, List.length_cons] at lengths
  omega

theorem chainLength_le (cs : List Char) : chainLength cs ≤ cs.length := by
  fun_induction chainLength cs with
  | case1 cs first none => exact Nat.zero_le _
  | case4 cs first some joiner rest after isJoiner more moreSome ih =>
    have lengths := length_drop_atom after
    show atomLength cs + 1 + chainLength rest ≤ cs.length
    omega
  | _ => exact atomLength_le _

/-- After an atom a chain goes on with a joiner and another chain, or ends. -/
theorem head?_rests_joined (cs : List Char) :
    ((many (seq (code 0x200D) atomPattern)).rests cs).head? =
      match cs with
      | [] => some []
      | joiner :: rest =>
        if joiner.toNat == 0x200D then (chainPattern.rests rest).head?.or (some cs) else some cs := by
  rw [rests_many, repeated_eq]
  cases cs with
  | nil => simp
  | cons joiner rest =>
    by_cases joins : (joiner.toNat == 0x200D) = true
    · -- each round takes the joiner at least, so the guard against empty rounds never holds one back
      have shorter : ∀ after ∈ atomPattern.rests rest, after.length < (joiner :: rest).length := by
        intro after left
        have := length_le_of_mem_rests atomPattern left
        rw [List.length_cons]
        omega
      have again : ((atomPattern.rests rest).flatMap fun after =>
            if after.length < (joiner :: rest).length then
              repeated (seq (code 0x200D) atomPattern).rests after
            else []) = chainPattern.rests rest := by
        rw [chainPattern, rests_seq]
        apply List.flatMap_congr
        intro after left
        rw [if_pos (shorter after left), rests_many]
      rw [rests_seq, rests_code_cons, if_pos joins, List.flatMap_singleton, again, List.head?_append]
      simp [joins]
    · simp [joins]

theorem measured_chainPattern : chainPattern.Measured chainLength := by
  intro cs
  induction size : cs.length using Nat.strong_induction_on generalizing cs with
  | h n ih =>
    -- the joiners after the first atom never fail as a whole, so its first match is the one that counts
    rw [chainPattern, head?_rests_seq (rests_many_ne_nil _), measured_atomPattern cs, chainLength_eq]
    by_cases none : atomLength cs = 0
    · simp [none]
    · simp only [none, if_false, Option.bind_some, head?_rests_joined]
      cases after : cs.drop (atomLength cs) with
      | nil => simp [none, after]
      | cons joiner rest =>
        have shorter := length_drop_atom after
        simp only [ih rest.length (by omega) rest rfl]
        by_cases joins : (joiner.toNat == 0x200D) = true
        · by_cases last : chainLength rest = 0
          · simp [joins, last, none, after]
          · have further : cs.drop (atomLength cs + 1 + chainLength rest) =
                rest.drop (chainLength rest) := by
              rw [Nat.add_assoc, ← List.drop_drop, after, Nat.add_comm, List.drop_succ_cons]
            simp [joins, last, further]
        · simp [joins, none, after]

/-! ## Emoji -/

/-- The number of characters of the emoji at the start, 0 if there is none. -/
def emojiLength (cs : List Char) : Nat :=
  let flag := flagLength cs
  if flag ≠ 0 then flag
  else
    let keycap := keycapLength cs
    if keycap ≠ 0 then keycap else chainLength cs

theorem emojiLength_le (cs : List Char) : emojiLength cs ≤ cs.length := by
  have flag : flagLength cs ≤ cs.length := by
    unfold flagLength
    split
    · split <;> simp
    · exact Nat.zero_le _
  have keycap : keycapLength cs ≤ cs.length := by
    unfold keycapLength
    split
    next a b rest =>
      split
      · exact Nat.zero_le _
      · split
        · simp
        · cases rest with
          | nil => simp
          | cons c rest =>
            simp only [List.length_cons]
            split <;> omega
    next => exact Nat.zero_le _
  have chain := chainLength_le cs
  simp only [emojiLength]
  split
  · exact flag
  · split
    · exact keycap
    · exact chain

/-- What the pattern of emoji prefers is what is measured from left to right. -/
theorem matchLength_emojiPattern : emojiPattern.matchLength = emojiLength := by
  have measured : emojiPattern.Measured emojiLength :=
    measured_flagPattern.either (measured_keycapPattern.either measured_chainPattern)
  exact measured.matchLength emojiLength_le

theorem pieces_unicodeEmoji (cs : List Char) : unicodeEmoji.pieces cs = cut emojiLength cs := by
  rw [← matchLength_emojiPattern]
  rfl

end CuratedList.Text
