import CuratedList.Proofs.Text.Emoji.Lengths

/-! # The grammar of emoji

What an emoji is, as a grammar that knows no order of preference. What is measured at a place is an
emoji and a chain is measured to its end (`exists_emoji`), and there is no emoji where nothing is measured
(`IsEmoji.emojiLength_ne_zero`).
-/

namespace CuratedList.Text
set_option autoImplicit false

inductive IsFlag : List Char → Prop
  | pair {first second : Char} (isFirst : isRegionalIndicator first = true)
      (isSecond : isRegionalIndicator second = true) : IsFlag [first, second]

/-- `#`, `*` or a digit, and U+20E3 with or without U+FE0F before it. -/
inductive IsKeycap : List Char → Prop
  | bare {base cap : Char} (isBase : isKeycapBase base = true) (isCap : cap.toNat = 0x20E3) :
      IsKeycap [base, cap]
  | selected {base selector cap : Char} (isBase : isKeycapBase base = true)
      (isSelector : selector.toNat = 0xFE0F) (isCap : cap.toNat = 0x20E3) :
      IsKeycap [base, selector, cap]

/-- At most one presentation selector or skin tone. -/
inductive IsVariant : List Char → Prop
  | none : IsVariant []
  | one {c : Char} (isVariant : isEmojiVariant c = true) : IsVariant [c]

/-- Tag characters closed by U+E007F, or nothing. -/
inductive IsTags : List Char → Prop
  | none : IsTags []
  | closed {tag last : Char} {tags : List Char} (isTags : ∀ c ∈ tag :: tags, isTag c = true)
      (isLast : last.toNat = 0xE007F) : IsTags (tag :: tags ++ [last])

/-- A pictographic character with its variant and its tags. -/
inductive IsAtom : List Char → Prop
  | mk {picture : Char} {variant tags : List Char} (isPicture : isPictographic picture = true)
      (isVariant : IsVariant variant) (isTags : IsTags tags) : IsAtom (picture :: (variant ++ tags))

/-- Atoms joined by U+200D. -/
inductive IsChain : List Char → Prop
  | single {atom : List Char} (isAtom : IsAtom atom) : IsChain atom
  | joined {atom chain : List Char} {joiner : Char} (isAtom : IsAtom atom)
      (isJoiner : joiner.toNat = 0x200D) (isChain : IsChain chain) :
      IsChain (atom ++ joiner :: chain)

inductive IsEmoji : List Char → Prop
  | flag {cs : List Char} (isFlag : IsFlag cs) : IsEmoji cs
  | keycap {cs : List Char} (isKeycap : IsKeycap cs) : IsEmoji cs
  | chain {cs : List Char} (isChain : IsChain cs) : IsEmoji cs

/-! ## Tags -/

theorem isTag_eq_false_of_isEmojiVariant {c : Char} (variant : isEmojiVariant c = true) :
    isTag c = false := by
  simp only [isEmojiVariant, Bool.or_eq_true, beq_iff_eq, Bool.and_eq_true, decide_eq_true_eq] at variant
  simp only [isTag, Bool.and_eq_false_iff, decide_eq_false_iff_not]
  omega

/-- What is measured at a character that starts no tags. -/
theorem tagsLength_cons_of_not {c : Char} (other : isTag c = false) (cs : List Char) :
    tagsLength (c :: cs) = 0 := by
  simp [tagsLength, other]

theorem takeWhile_isTag_append {tags : List Char} {last : Char} (isTags : ∀ c ∈ tags, isTag c = true)
    (isLast : last.toNat = 0xE007F) (rest : List Char) :
    (tags ++ last :: rest).takeWhile isTag = tags := by
  have other : isTag last = false := by simp [isTag, isLast]
  rw [List.takeWhile_append_of_pos isTags, List.takeWhile_cons_of_neg (by simp [other]), List.append_nil]

theorem IsTags.tagsLength_append {tags : List Char} (isTags : IsTags tags) (some : tags ≠ [])
    (rest : List Char) : tagsLength (tags ++ rest) = tags.length := by
  cases isTags with
  | none => exact absurd rfl some
  | @closed tag last tags isTags isLast =>
    have taken := takeWhile_isTag_append isTags isLast rest
    simp only [List.append_assoc, List.singleton_append, tagsLength, taken, List.drop_left,
      List.head?_cons, Option.any_some, isLast, beq_self_eq_true, Bool.and_true, List.isEmpty_cons,
      Bool.not_false, if_true, List.length_append, List.length_singleton]

theorem IsTags.length_le {tags : List Char} (isTags : IsTags tags) (rest : List Char) :
    tags.length ≤ tagsLength (tags ++ rest) := by
  by_cases empty : tags = []
  · rw [empty]
    exact Nat.zero_le _
  · exact (isTags.tagsLength_append empty rest).ge

/-- Tags do not start with a variant. -/
theorem IsTags.head?_any_isEmojiVariant {tags : List Char} (isTags : IsTags tags) (some : tags ≠ [])
    (rest : List Char) : (tags ++ rest).head?.any isEmojiVariant = false := by
  cases isTags with
  | none => exact absurd rfl some
  | @closed tag last tags isTags isLast =>
    have isTag := isTags tag List.mem_cons_self
    cases variant : isEmojiVariant tag with
    | false => exact variant
    | true => exact absurd isTag (by simp [isTag_eq_false_of_isEmojiVariant variant])

theorem exists_tags (cs : List Char) :
    ∃ tags rest, cs = tags ++ rest ∧ IsTags tags ∧ tags.length = tagsLength cs := by
  by_cases none : tagsLength cs = 0
  · exact ⟨[], cs, rfl, .none, none.symm⟩
  · simp only [tagsLength] at none ⊢
    split at none
    next found =>
      rw [if_pos found]
      simp only [Bool.and_eq_true, Bool.not_eq_true', List.isEmpty_eq_false_iff, Option.any_eq_true,
        beq_iff_eq] at found
      obtain ⟨some, last, here, isLast⟩ := found
      obtain ⟨tag, tags, taken⟩ := List.exists_cons_of_ne_nil some
      obtain ⟨rest, after⟩ := List.head?_eq_some_iff.1 here
      have isTags : ∀ c ∈ tag :: tags, isTag c = true := by
        intro c member
        exact List.mem_takeWhile_imp (taken ▸ member)
      refine ⟨tag :: tags ++ [last], rest, ?_, .closed isTags isLast, by simp [taken]⟩
      have whole := List.take_append_drop (cs.takeWhile isTag).length cs
      rw [after, ← List.prefix_iff_eq_take.1 (List.takeWhile_prefix isTag), taken] at whole
      rw [← whole, List.append_assoc, List.singleton_append]
    next => exact absurd rfl none

/-! ## Atoms -/

theorem atomLength_cons {picture : Char} (isPicture : isPictographic picture = true) (cs : List Char) :
    atomLength (picture :: cs) =
      1 + (if cs.head?.any isEmojiVariant then 1 else 0) +
        tagsLength (cs.drop (if cs.head?.any isEmojiVariant then 1 else 0)) := by
  simp only [atomLength, isPicture, Bool.not_true, Bool.false_eq_true, if_false]

theorem exists_atom {cs : List Char} (some : atomLength cs ≠ 0) :
    ∃ atom rest, cs = atom ++ rest ∧ IsAtom atom ∧ atom.length = atomLength cs := by
  cases cs with
  | nil => exact absurd rfl some
  | cons picture cs =>
    by_cases isPicture : isPictographic picture = true
    · rw [atomLength_cons isPicture]
      by_cases variant : cs.head?.any isEmojiVariant = true
      · obtain ⟨c, here, isVariant⟩ := (Option.any_eq_true ..).1 variant
        obtain ⟨after, rfl⟩ := List.head?_eq_some_iff.1 here
        obtain ⟨tags, rest, rfl, isTags, length⟩ := exists_tags after
        refine ⟨picture :: ([c] ++ tags), rest, by simp, .mk isPicture (.one isVariant) isTags, ?_⟩
        simp [isVariant, length]
        omega
      · obtain ⟨tags, rest, rfl, isTags, length⟩ := exists_tags cs
        refine ⟨picture :: ([] ++ tags), rest, by simp, .mk isPicture .none isTags, ?_⟩
        rw [if_neg variant, List.drop_zero, ← length]
        simp
        omega
    · exact absurd (by simp [atomLength, isPicture]) some

theorem IsAtom.length_pos {atom : List Char} (isAtom : IsAtom atom) : 0 < atom.length := by
  cases isAtom
  exact Nat.succ_pos _

/-- An atom is measured to its end at least. -/
theorem IsAtom.length_le {atom : List Char} (isAtom : IsAtom atom) (rest : List Char) :
    atom.length ≤ atomLength (atom ++ rest) := by
  obtain @⟨picture, variant, tags, isPicture, isVariant, isTags⟩ := isAtom
  rw [List.cons_append, atomLength_cons isPicture]
  cases isVariant with
  | one isVariant =>
    have closed := isTags.length_le rest
    simp [isVariant]
    omega
  | none =>
    by_cases empty : tags = []
    · subst empty
      simp
      omega
    · have first := isTags.head?_any_isEmojiVariant empty rest
      have closed := isTags.length_le rest
      simp only [List.nil_append, first, Bool.false_eq_true, if_false, List.drop_zero, List.length_cons]
      omega

/-- A joiner ends the atom before it. -/
theorem IsAtom.atomLength_append {atom : List Char} (isAtom : IsAtom atom) {joiner : Char}
    (isJoiner : joiner.toNat = 0x200D) (rest : List Char) :
    atomLength (atom ++ joiner :: rest) = atom.length := by
  have noVariant : isEmojiVariant joiner = false := by simp [isEmojiVariant, isJoiner]
  have noTag : isTag joiner = false := by simp [isTag, isJoiner]
  obtain @⟨picture, variant, tags, isPicture, isVariant, isTags⟩ := isAtom
  have closed : tagsLength (tags ++ joiner :: rest) = tags.length := by
    by_cases empty : tags = []
    · subst empty
      exact tagsLength_cons_of_not noTag rest
    · exact isTags.tagsLength_append empty _
  rw [List.cons_append, atomLength_cons isPicture]
  cases isVariant with
  | one isVariant =>
    simp [isVariant, closed]
    omega
  | none =>
    have first : ((tags ++ joiner :: rest).head?.any isEmojiVariant) = false := by
      by_cases empty : tags = []
      · subst empty
        exact noVariant
      · exact isTags.head?_any_isEmojiVariant empty _
    simp only [List.nil_append, first, Bool.false_eq_true, if_false, List.drop_zero, closed,
      List.length_cons]
    omega

/-! ## Chains -/

theorem atomLength_le_chainLength (cs : List Char) : atomLength cs ≤ chainLength cs := by
  rw [chainLength_eq]
  split
  · omega
  · split
    · exact Nat.le_refl _
    · split
      · split
        · exact Nat.le_refl _
        · rw [Nat.add_assoc]
          exact Nat.le_add_right ..
      · exact Nat.le_refl _

theorem exists_chain {cs : List Char} (some : chainLength cs ≠ 0) :
    ∃ chain rest, cs = chain ++ rest ∧ IsChain chain ∧ chain.length = chainLength cs := by
  induction size : cs.length using Nat.strong_induction_on generalizing cs with
  | h n ih =>
    rw [chainLength_eq] at some ⊢
    by_cases none : atomLength cs = 0
    · exact absurd (if_pos none) some
    · obtain ⟨atom, after, whole, isAtom, length⟩ := exists_atom none
      have left : cs.drop (atomLength cs) = after := by
        rw [← length, whole, List.drop_left]
      have alone : ∃ chain rest, cs = chain ++ rest ∧ IsChain chain ∧ chain.length = atomLength cs :=
        ⟨atom, after, whole, .single isAtom, length⟩
      rw [if_neg none, left]
      cases after with
      | nil => exact alone
      | cons joiner rest =>
        simp only
        split
        next joins =>
          split
          next => exact alone
          next more =>
            have shorter := length_drop_atom left
            obtain ⟨chain, rest, rfl, isChain, further⟩ := ih _ (by omega) more rfl
            refine ⟨atom ++ joiner :: chain, rest, by simp [whole],
              .joined isAtom (beq_iff_eq.1 joins) isChain, ?_⟩
            rw [List.length_append, List.length_cons]
            omega
        next => exact alone

theorem IsChain.length_pos {chain : List Char} (isChain : IsChain chain) : 0 < chain.length := by
  cases isChain with
  | single isAtom => exact isAtom.length_pos
  | joined isAtom =>
    rw [List.length_append]
    exact Nat.add_pos_left isAtom.length_pos _

/-- No chain that starts at a place is longer than what is measured there. -/
theorem IsChain.length_le {chain : List Char} (isChain : IsChain chain) (rest : List Char) :
    chain.length ≤ chainLength (chain ++ rest) := by
  induction isChain with
  | single isAtom => exact (isAtom.length_le rest).trans (atomLength_le_chainLength _)
  | @joined atom chain joiner isAtom isJoiner isChain ih =>
    have first := isAtom.atomLength_append isJoiner (chain ++ rest)
    have pos := isAtom.length_pos
    have more := isChain.length_pos
    rw [List.append_assoc, List.cons_append, chainLength_eq, first, if_neg pos.ne', List.drop_left]
    simp only [isJoiner, beq_self_eq_true, if_true, List.length_append, List.length_cons]
    -- the chain that follows the joiner has a length, so more than the atom is measured
    rw [if_neg (by omega)]
    omega

/-! ## Emoji -/

/-- A chain that is as long as it can be where `rest` follows. -/
structure IsFullChain (chain rest : List Char) : Prop where
  isChain : IsChain chain
  full : ∀ longer, IsChain longer → longer <+: chain ++ rest → longer.length ≤ chain.length

theorem exists_flag {cs : List Char} (some : flagLength cs ≠ 0) :
    ∃ flag rest, cs = flag ++ rest ∧ IsFlag flag ∧ flag.length = flagLength cs := by
  match cs, some with
  | first :: second :: rest, some =>
    simp only [flagLength] at some ⊢
    split at some
    next letters =>
      rw [if_pos letters]
      rw [Bool.and_eq_true] at letters
      exact ⟨[first, second], rest, rfl, .pair letters.1 letters.2, rfl⟩
    next => exact absurd rfl some

theorem exists_keycap {cs : List Char} (some : keycapLength cs ≠ 0) :
    ∃ keycap rest, cs = keycap ++ rest ∧ IsKeycap keycap ∧ keycap.length = keycapLength cs := by
  match cs with
  | [] => exact absurd rfl some
  | [_] => exact absurd rfl some
  | base :: second :: rest =>
    simp only [keycapLength] at some ⊢
    by_cases isBase : isKeycapBase base = true
    · by_cases isCap : (second.toNat == 0x20E3) = true
      · simp only [isBase, isCap, Bool.not_true, Bool.false_eq_true, if_false, if_true]
        exact ⟨[base, second], rest, rfl, .bare isBase (beq_iff_eq.1 isCap), rfl⟩
      · simp only [isBase, isCap, Bool.not_true, Bool.false_eq_true, if_false] at some ⊢
        by_cases selected : (second.toNat == 0xFE0F && rest.head?.any fun c => c.toNat == 0x20E3) = true
        · rw [if_pos selected]
          simp only [Bool.and_eq_true, beq_iff_eq, Option.any_eq_true] at selected
          obtain ⟨isSelector, cap, here, isCap⟩ := selected
          obtain ⟨rest, rfl⟩ := List.head?_eq_some_iff.1 here
          exact ⟨[base, second, cap], rest, rfl, .selected isBase isSelector isCap, rfl⟩
        · exact absurd (if_neg selected) some
    · exact absurd (by simp [isBase]) some

/-- What is measured at a place is an emoji, and a chain is full. -/
theorem exists_emoji {cs : List Char} (some : emojiLength cs ≠ 0) :
    ∃ emoji rest, cs = emoji ++ rest ∧ emoji.length = emojiLength cs ∧
      (IsFlag emoji ∨ IsKeycap emoji ∨ IsFullChain emoji rest) := by
  simp only [emojiLength] at some ⊢
  split at some
  next flag =>
    obtain ⟨emoji, rest, whole, isFlag, length⟩ := exists_flag flag
    exact ⟨emoji, rest, whole, by rw [if_pos flag, length], .inl isFlag⟩
  next noFlag =>
    rw [if_neg noFlag]
    split at some
    next keycap =>
      obtain ⟨emoji, rest, whole, isKeycap, length⟩ := exists_keycap keycap
      exact ⟨emoji, rest, whole, by rw [if_pos keycap, length], .inr (.inl isKeycap)⟩
    next noKeycap =>
      obtain ⟨emoji, rest, whole, isChain, length⟩ := exists_chain some
      refine ⟨emoji, rest, whole, by rw [if_neg noKeycap, length], .inr (.inr ⟨isChain, ?_⟩)⟩
      rintro longer isLonger ⟨more, same⟩
      have measured := isLonger.length_le more
      rwa [same, ← whole, ← length] at measured

/-- Where an emoji stands, one is measured. -/
theorem IsEmoji.emojiLength_ne_zero {emoji : List Char} (isEmoji : IsEmoji emoji)
    (rest : List Char) : emojiLength (emoji ++ rest) ≠ 0 := by
  simp only [emojiLength]
  split
  next flag => exact flag
  next noFlag =>
    split
    next keycap => exact keycap
    next noKeycap =>
      cases isEmoji with
      | flag isFlag =>
        obtain ⟨isFirst, isSecond⟩ := isFlag
        exact absurd (by simp [flagLength, isFirst, isSecond]) noFlag
      | keycap isKeycap =>
        refine absurd ?_ noKeycap
        cases isKeycap with
        | bare isBase isCap => simp [keycapLength, isBase, isCap]
        | selected isBase isSelector isCap => simp [keycapLength, isBase, isSelector, isCap]
      | chain isChain =>
        have pos := isChain.length_pos
        have measured := isChain.length_le rest
        omega

end CuratedList.Text
