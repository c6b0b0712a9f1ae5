import CuratedList.Proofs.Text.Emoji.Lengths

/-! # Emoji in texts put together

Emoji are found from left to right, and what is found at a place depends on the characters after it. This
ends at a character that no emoji contains: on its two sides emoji are found as if the other side were not
there (`strip_append_cons`). Where emoji are removed no pictographic character is left
(`isPictographic_of_mem_strip`).
-/

namespace CuratedList.Text
set_option autoImplicit false

/-! ## Cuts -/

section

variable {len : List Char → Nat}

theorem cut_cons_of_zero {c : Char} {rest : List Char} (none : len (c :: rest) = 0) :
    cut len (c :: rest) = .plain c :: cut len rest := by
  rw [cut]
  exact if_pos none

theorem cut_cons_of_pos {c : Char} {rest : List Char} (some : len (c :: rest) ≠ 0) :
    cut len (c :: rest) =
      .emoji ((c :: rest).take (len (c :: rest))) :: cut len (rest.drop (len (c :: rest) - 1)) := by
  rw [cut]
  exact if_neg some

/-- A text is cut on the two sides of a character that changes no length. -/
theorem cut_append_cons {d : Char} {ys : List Char} (bounded : ∀ xs, len xs ≤ xs.length)
    (apart : ∀ xs, len (xs ++ d :: ys) = len xs) (xs : List Char) :
    cut len (xs ++ d :: ys) = cut len xs ++ .plain d :: cut len ys := by
  fun_induction cut len xs with
  | case1 =>
    have none : len (d :: ys) = 0 := Nat.le_zero.1 ((apart []).trans_le (bounded []))
    exact cut_cons_of_zero none
  | case2 c rest n none ih =>
    have same : len (c :: (rest ++ d :: ys)) = 0 := (apart (c :: rest)).trans none
    rw [List.cons_append, cut_cons_of_zero same, ih, List.cons_append]
  | case3 c rest n some ih =>
    have same : len (c :: (rest ++ d :: ys)) = n := apart (c :: rest)
    -- an emoji is no longer than the text before `d`, so it ends there
    have inside : n ≤ (c :: rest).length := bounded (c :: rest)
    have taken : (c :: (rest ++ d :: ys)).take n = (c :: rest).take n := by
      rw [← List.cons_append]
      exact List.take_append_of_le_length inside
    have dropped : (rest ++ d :: ys).drop (n - 1) = rest.drop (n - 1) ++ d :: ys := by
      apply List.drop_append_of_le_length
      rw [List.length_cons] at inside
      omega
    have found : len (c :: (rest ++ d :: ys)) ≠ 0 := by
      rw [same]
      exact some
    rw [List.cons_append, cut_cons_of_pos found, same, taken, dropped, ih, List.cons_append]

theorem exists_zero_of_mem_cut {c : Char} {cs : List Char} (plain : Piece.plain c ∈ cut len cs) :
    ∃ rest, len (c :: rest) = 0 := by
  fun_induction cut len cs with
  | case1 => cases plain
  | case2 d rest n none ih =>
    rcases List.mem_cons.1 plain with here | later
    · cases here
      exact ⟨rest, none⟩
    · exact ih later
  | case3 d rest n some ih =>
    rcases List.mem_cons.1 plain with here | later
    · cases here
    · exact ih later

end

/-! ## What is left without emoji -/

theorem EmojiFinder.mem_strip_iff (f : EmojiFinder) (c : Char) (cs : List Char) :
    c ∈ f.strip cs ↔ .plain c ∈ f.pieces cs := by
  rw [EmojiFinder.strip_eq, List.mem_flatMap]
  constructor
  · rintro ⟨piece, member, here⟩
    cases piece with
    | plain d => rwa [List.mem_singleton.1 here]
    | emoji cs => cases here
  · intro member
    exact ⟨.plain c, member, List.mem_singleton_self c⟩

theorem plainChars_sublist (ps : List Piece) :
    (ps.flatMap Piece.plainChars).Sublist (ps.flatMap Piece.chars) := by
  induction ps with
  | nil => exact List.Sublist.refl []
  | cons p ps ih =>
    have here : p.plainChars.Sublist p.chars := by
      cases p with
      | plain c => exact List.Sublist.refl [c]
      | emoji cs => exact List.nil_sublist cs
    exact here.append ih

theorem strip_sublist (emoji : EmojiFinder) (text : List Char) :
    (emoji.strip text).Sublist text := by
  have h := plainChars_sublist (emoji.pieces text)
  rwa [emoji.pieces_flatMap_chars, ← emoji.strip_eq] at h

theorem plainChars_eq_chars_iff (ps : List Piece) :
    ps.flatMap Piece.plainChars = ps.flatMap Piece.chars ↔ ∀ cs, Piece.emoji cs ∈ ps → cs = [] := by
  induction ps with
  | nil => simp
  | cons p ps ih =>
    rw [List.flatMap_cons, List.flatMap_cons]
    cases p with
    | plain c => simp [Piece.plainChars, Piece.chars, ih]
    | emoji cs =>
      constructor
      · intro same
        have lengths := congrArg List.length same
        have shorter := (plainChars_sublist ps).length_le
        simp only [Piece.plainChars, Piece.chars, List.nil_append, List.length_append] at lengths
        have none : cs = [] := List.length_eq_zero_iff.1 (by omega)
        subst none
        have rest := ih.1 (by simpa [Piece.plainChars, Piece.chars] using same)
        intro ds member
        rcases List.mem_cons.1 member with here | later
        · cases here
          rfl
        · exact rest ds later
      · intro empty
        have none : cs = [] := empty cs List.mem_cons_self
        have rest := ih.2 fun ds member => empty ds (List.mem_cons_of_mem _ member)
        rw [none, rest]
        rfl

/-- What is left differs from the text exactly if an emoji was removed. -/
theorem strip_ne_iff (emoji : EmojiFinder) (text : List Char) :
    emoji.strip text ≠ text ↔ ∃ cs, Piece.emoji cs ∈ emoji.pieces text ∧ cs ≠ [] := by
  have kept := plainChars_eq_chars_iff (emoji.pieces text)
  rw [emoji.pieces_flatMap_chars] at kept
  rw [emoji.strip_eq, Ne, kept]
  simp

/-! ## Characters that stand in no emoji -/

/-- No emoji contains the character. -/
structure Bystander (c : Char) : Prop where
  noPicture : isPictographic c = false
  noLetter : isRegionalIndicator c = false
  noVariant : isEmojiVariant c = false
  noTag : isTag c = false
  noTagsEnd : (c.toNat == 0xE007F) = false
  noBase : isKeycapBase c = false
  noKeycap : (c.toNat == 0x20E3) = false
  noJoiner : (c.toNat == 0x200D) = false

theorem Bystander.noSelector {c : Char} (bystander : Bystander c) : (c.toNat == 0xFE0F) = false :=
  (Bool.or_eq_false_iff.1 bystander.noVariant).1

section

variable {d : Char} (bystander : Bystander d) (ys : List Char)

include bystander

theorem flagLength_append_cons (xs : List Char) : flagLength (xs ++ d :: ys) = flagLength xs := by
  match xs with
  | [] => cases ys <;> simp [flagLength, bystander.noLetter]
  | [a] => simp [flagLength, bystander.noLetter]
  | a :: b :: rest => rfl

theorem keycapLength_append_cons (xs : List Char) :
    keycapLength (xs ++ d :: ys) = keycapLength xs := by
  match xs with
  | [] => cases ys <;> simp [keycapLength, bystander.noBase]
  | [a] => simp [keycapLength, bystander.noKeycap, bystander.noSelector]
  | [a, b] => simp [keycapLength, bystander.noKeycap]
  | a :: b :: c :: rest => rfl

theorem tagsLength_append_cons (xs : List Char) : tagsLength (xs ++ d :: ys) = tagsLength xs := by
  have tags : (xs ++ d :: ys).takeWhile isTag = xs.takeWhile isTag := by
    rw [List.takeWhile_append, List.takeWhile_cons_of_neg (by simp [bystander.noTag]), List.append_nil]
    split
    next all => exact ((List.takeWhile_prefix isTag).eq_of_length all).symm
    next => rfl
  have after : (xs ++ d :: ys).drop (xs.takeWhile isTag).length =
      xs.drop (xs.takeWhile isTag).length ++ d :: ys :=
    List.drop_append_of_le_length (List.takeWhile_prefix isTag).length_le
  simp only [tagsLength, tags, after]
  cases xs.drop (xs.takeWhile isTag).length with
  | nil => simp [bystander.noTagsEnd]
  | cons c rest => rfl

theorem atomLength_append_cons (xs : List Char) : atomLength (xs ++ d :: ys) = atomLength xs := by
  cases xs with
  | nil => simp [atomLength, bystander.noPicture]
  | cons c cs =>
    have variant : ((cs ++ d :: ys).head?.any isEmojiVariant) = cs.head?.any isEmojiVariant := by
      cases cs <;> simp [bystander.noVariant]
    have after : (cs ++ d :: ys).drop (if cs.head?.any isEmojiVariant then 1 else 0) =
        cs.drop (if cs.head?.any isEmojiVariant then 1 else 0) ++ d :: ys := by
      apply List.drop_append_of_le_length
      cases cs with
      | nil => simp
      | cons e es => split <;> simp
    simp only [List.cons_append, atomLength, variant, after, tagsLength_append_cons bystander]

end

/-! ## Chains of atoms -/

theorem chainLength_append_cons {d : Char} (bystander : Bystander d) (ys xs : List Char) :
    chainLength (xs ++ d :: ys) = chainLength xs := by
  induction size : xs.length using Nat.strong_induction_on generalizing xs with
  | h n ih =>
    have after : (xs ++ d :: ys).drop (atomLength xs) = xs.drop (atomLength xs) ++ d :: ys :=
      List.drop_append_of_le_length (atomLength_le xs)
    rw [chainLength_eq (xs ++ d :: ys), chainLength_eq xs, atomLength_append_cons bystander, after]
    by_cases none : atomLength xs = 0
    · rw [if_pos none, if_pos none]
    · rw [if_neg none, if_neg none]
      cases left : xs.drop (atomLength xs) with
      | nil => simp only [List.nil_append, bystander.noJoiner, Bool.false_eq_true, if_false]
      | cons joiner rest =>
        have shorter := length_drop_atom left
        simp only [List.cons_append, ih rest.length (by omega) rest rfl]

/-! ## The emoji of Unicode -/

theorem emojiLength_append_cons {d : Char} (bystander : Bystander d) (ys xs : List Char) :
    emojiLength (xs ++ d :: ys) = emojiLength xs := by
  unfold emojiLength
  rw [flagLength_append_cons bystander, keycapLength_append_cons bystander,
    chainLength_append_cons bystander]

/-- Without its emoji a text has the same parts around a character that stands in none. -/
theorem strip_append_cons {d : Char} (bystander : Bystander d) (xs ys : List Char) :
    unicodeEmoji.strip (xs ++ d :: ys) = unicodeEmoji.strip xs ++ d :: unicodeEmoji.strip ys := by
  have parted : cut emojiLength (xs ++ d :: ys) =
      cut emojiLength xs ++ .plain d :: cut emojiLength ys :=
    cut_append_cons emojiLength_le (emojiLength_append_cons bystander ys) xs
  have stripped (cs : List Char) :
      unicodeEmoji.strip cs = (cut emojiLength cs).flatMap Piece.plainChars := by
    rw [EmojiFinder.strip_eq, pieces_unicodeEmoji]
  rw [stripped, stripped, stripped, parted, List.flatMap_append, List.flatMap_cons]
  rfl

theorem emojiLength_pos {c : Char} (picture : isPictographic c = true) (rest : List Char) :
    0 < emojiLength (c :: rest) := by
  have atom : 0 < atomLength (c :: rest) := by
    unfold atomLength
    simp only [picture, Bool.not_true, Bool.false_eq_true, if_false]
    omega
  have chain : 0 < chainLength (c :: rest) := by
    rw [chainLength_eq, if_neg atom.ne']
    split
    · exact atom
    · split
      · split
        · exact atom
        · exact Nat.add_pos_left (Nat.succ_pos _) _
      · exact atom
  simp only [emojiLength]
  split
  next flag => exact Nat.pos_of_ne_zero flag
  next =>
    split
    next keycap => exact Nat.pos_of_ne_zero keycap
    next => exact chain

theorem isPictographic_of_mem_strip {c : Char} {cs : List Char} (left : c ∈ unicodeEmoji.strip cs) :
    isPictographic c = false := by
  rw [EmojiFinder.mem_strip_iff, pieces_unicodeEmoji] at left
  obtain ⟨rest, none⟩ := exists_zero_of_mem_cut left
  rw [Bool.eq_false_iff]
  intro picture
  exact (emojiLength_pos picture rest).ne' none

theorem isBlank_of_isPictographic {c : Char} (picture : isPictographic c = true) :
    isBlank c = false :=
  Ranges.holds_eq_false (by decide +kernel) picture

end CuratedList.Text
