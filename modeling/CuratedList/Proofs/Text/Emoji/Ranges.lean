import CuratedList.Proofs.Text.Emoji
import CuratedList.Proofs.Text.Emoji.Grammar
import CuratedList.Proofs.Text.Position

/-! # The ranges of emoji

The ranges that the emoji of a text have are in order and apart, each holds an emoji of the grammar, and
every emoji of the grammar starts in one of them. What is left without emoji are the characters that
start in none of the ranges.

The text is followed piece by piece: a piece of a cut starts at the bytes of the pieces before it, and the
pieces from there on are the cut of the rest (`exists_rest`).
-/

namespace CuratedList.Text
set_option autoImplicit false

/-- The byte at `n` lies in one of the ranges. -/
def Covered (ranges : List Span) (n : Nat) : Prop :=
  ∃ range ∈ ranges, range.start ≤ n ∧ n < range.stop

instance (ranges : List Span) (n : Nat) : Decidable (Covered ranges n) :=
  inferInstanceAs (Decidable (∃ range ∈ ranges, _))

/-- The characters that start outside of the ranges, in a text that starts at the byte `pos`. -/
def outside (ranges : List Span) (pos : Nat) : List Char → List Char
  | [] => []
  | c :: cs =>
    if Covered ranges pos then outside ranges (pos + c.utf8Size) cs
    else c :: outside ranges (pos + c.utf8Size) cs

/-! ## Ranges of pieces -/

namespace EmojiFinder

theorem spansFrom_append (pos : Nat) (ps qs : List Piece) :
    spansFrom pos (ps ++ qs) =
      spansFrom pos ps ++ spansFrom (pos + byteLength (ps.flatMap Piece.chars)) qs := by
  induction ps generalizing pos with
  | nil => rfl
  | cons p ps ih =>
    rw [List.flatMap_cons, byteLength_append, ← Nat.add_assoc]
    cases p with
    | plain c => exact ih _
    | emoji cs => exact congrArg (List.cons _) (ih _)

theorem exists_piece_of_mem_spansFrom {pos : Nat} {ps : List Piece} {range : Span}
    (member : range ∈ spansFrom pos ps) :
    ∃ before emoji after, ps = before ++ .emoji emoji :: after ∧
      range.start = pos + byteLength (before.flatMap Piece.chars) ∧
      range.stop = range.start + byteLength emoji := by
  induction ps generalizing pos with
  | nil => cases member
  | cons p ps ih =>
    -- a piece in front moves all that follows
    have later (member : range ∈ spansFrom (pos + byteLength p.chars) ps) :
        ∃ before emoji after, p :: ps = before ++ .emoji emoji :: after ∧
          range.start = pos + byteLength (before.flatMap Piece.chars) ∧
          range.stop = range.start + byteLength emoji := by
      obtain ⟨before, emoji, after, rfl, start, stop⟩ := ih member
      refine ⟨p :: before, emoji, after, rfl, ?_, stop⟩
      rw [start, List.flatMap_cons, byteLength_append, Nat.add_assoc]
    cases p with
    | plain c => exact later member
    | emoji cs =>
      rcases List.mem_cons.1 member with rfl | member
      · exact ⟨[], cs, ps, rfl, rfl, rfl⟩
      · exact later member

theorem mem_spansFrom (pos : Nat) (before after : List Piece) (emoji : List Char) :
    (⟨pos + byteLength (before.flatMap Piece.chars),
        pos + byteLength (before.flatMap Piece.chars) + byteLength emoji⟩ : Span) ∈
      spansFrom pos (before ++ .emoji emoji :: after) := by
  rw [spansFrom_append]
  exact List.mem_append_right _ List.mem_cons_self

theorem le_start_of_mem_spansFrom {pos : Nat} {ps : List Piece} {range : Span}
    (member : range ∈ spansFrom pos ps) : pos ≤ range.start := by
  obtain ⟨before, emoji, after, -, start, -⟩ := exists_piece_of_mem_spansFrom member
  omega

theorem pairwise_spansFrom (pos : Nat) (ps : List Piece) :
    (spansFrom pos ps).Pairwise fun a b => a.stop ≤ b.start := by
  induction ps generalizing pos with
  | nil => exact List.Pairwise.nil
  | cons p ps ih =>
    cases p with
    | plain c => exact ih _
    | emoji cs => exact List.Pairwise.cons (fun b member => le_start_of_mem_spansFrom member) (ih _)

end EmojiFinder

open EmojiFinder

theorem exists_piece {ps : List Piece} {before rest : List Char} {c : Char}
    (whole : ps.flatMap Piece.chars = before ++ c :: rest) :
    ∃ front p back inner outer, ps = front ++ p :: back ∧
      before = front.flatMap Piece.chars ++ inner ∧ p.chars = inner ++ c :: outer := by
  induction ps generalizing before with
  | nil => simp at whole
  | cons p ps ih =>
    rw [List.flatMap_cons] at whole
    rcases List.append_eq_append_iff.1 whole with ⟨more, rfl, tail⟩ | ⟨more, inside, tail⟩
    · obtain ⟨front, q, back, inner, outer, rfl, rfl, inside⟩ := ih tail
      exact ⟨p :: front, q, back, inner, outer, rfl, by simp, inside⟩
    · cases more with
      | nil =>
        have later : ps.flatMap Piece.chars = [] ++ c :: rest := tail.symm
        obtain ⟨front, q, back, inner, outer, rfl, empty, inside'⟩ := ih later
        refine ⟨p :: front, q, back, inner, outer, rfl, ?_, inside'⟩
        rw [List.append_nil] at inside
        rw [List.flatMap_cons, List.append_assoc, ← empty, List.append_nil, inside]
      | cons d more =>
        rw [List.cons_append, List.cons.injEq] at tail
        obtain ⟨rfl, -⟩ := tail
        exact ⟨[], p, ps, before, more, rfl, rfl, inside⟩

section

variable {len : List Char → Nat}

/-- The first piece of a cut, and the cut of the rest. -/
theorem exists_cut_cons (c : Char) (cs : List Char) :
    ∃ p rest, cut len (c :: cs) = p :: cut len rest ∧ c :: cs = p.chars ++ rest ∧
      (len (c :: cs) = 0 ∧ p = .plain c ∨
        len (c :: cs) ≠ 0 ∧ p = .emoji ((c :: cs).take (len (c :: cs)))) := by
  by_cases none : len (c :: cs) = 0
  · exact ⟨.plain c, cs, cut_cons_of_zero none, rfl, .inl ⟨none, rfl⟩⟩
  · refine ⟨_, _, cut_cons_of_pos none, ?_, .inr ⟨none, rfl⟩⟩
    obtain ⟨n, length⟩ := Nat.exists_eq_succ_of_ne_zero none
    simp [length, Piece.chars]

/-- The pieces from a piece on are the cut of the rest of the text. -/
theorem exists_rest {cs : List Char} {front back : List Piece} {p : Piece}
    (pieces : cut len cs = front ++ p :: back) :
    ∃ rest, cs = front.flatMap Piece.chars ++ rest ∧ cut len rest = p :: back := by
  induction front generalizing cs with
  | nil => exact ⟨cs, rfl, pieces⟩
  | cons q front ih =>
    cases cs with
    | nil => simp [cut] at pieces
    | cons c cs =>
      obtain ⟨first, after, cuts, whole, -⟩ := @exists_cut_cons len c cs
      rw [cuts, List.cons_append, List.cons.injEq] at pieces
      obtain ⟨rfl, later⟩ := pieces
      obtain ⟨rest, rfl, tail⟩ := ih later
      exact ⟨rest, by rw [whole, List.flatMap_cons, List.append_assoc], tail⟩

/-- Nothing is measured where a piece is a single character. -/
theorem exists_of_cut_plain {cs : List Char} {c : Char} {back : List Piece}
    (pieces : cut len cs = .plain c :: back) : ∃ rest, cs = c :: rest ∧ len (c :: rest) = 0 := by
  cases cs with
  | nil => simp [cut] at pieces
  | cons d rest =>
    obtain ⟨first, after, cuts, -, ⟨none, rfl⟩ | ⟨-, rfl⟩⟩ := @exists_cut_cons len d rest
    · rw [cuts, List.cons.injEq, Piece.plain.injEq] at pieces
      obtain ⟨rfl, -⟩ := pieces
      exact ⟨rest, rfl, none⟩
    · simp [cuts] at pieces

/-- An emoji is what is measured where it starts. -/
theorem exists_of_cut_emoji {cs emoji : List Char} {back : List Piece}
    (pieces : cut len cs = .emoji emoji :: back) :
    len cs ≠ 0 ∧ emoji = cs.take (len cs) ∧ ∃ rest, cs = emoji ++ rest := by
  cases cs with
  | nil => simp [cut] at pieces
  | cons d cs =>
    obtain ⟨first, after, cuts, whole, ⟨-, rfl⟩ | ⟨some, rfl⟩⟩ := @exists_cut_cons len d cs
    · simp [cuts] at pieces
    · rw [cuts, List.cons.injEq, Piece.emoji.injEq] at pieces
      obtain ⟨rfl, -⟩ := pieces
      exact ⟨some, rfl, after, whole⟩

end

/-! ## The characters outside -/

theorem outside_append_of_covered {ranges : List Span} {range : Span} (member : range ∈ ranges)
    {pos : Nat} (cs rest : List Char) (start : range.start ≤ pos)
    (stop : pos + byteLength cs ≤ range.stop) :
    outside ranges pos (cs ++ rest) = outside ranges (pos + byteLength cs) rest := by
  induction cs generalizing pos with
  | nil => rfl
  | cons c cs ih =>
    have size := c.utf8Size_pos
    rw [byteLength_cons] at stop
    have covered : Covered ranges pos := ⟨range, member, start, by omega⟩
    rw [List.cons_append, outside, if_pos covered, ih (by omega) (by omega), byteLength_cons, Nat.add_assoc]

/-- `passed` are the ranges before the byte `pos`. -/
theorem outside_spansFrom (passed : List Span) (pos : Nat) (ps : List Piece)
    (before : ∀ range ∈ passed, range.stop ≤ pos) :
    outside (passed ++ spansFrom pos ps) pos (ps.flatMap Piece.chars) =
      ps.flatMap Piece.plainChars := by
  induction ps generalizing passed pos with
  | nil => rfl
  | cons p ps ih =>
    cases p with
    | plain c =>
      have size := c.utf8Size_pos
      have uncovered : ¬ Covered (passed ++ spansFrom (pos + c.utf8Size) ps) pos := by
        rintro ⟨range, member, start, stop⟩
        rcases List.mem_append.1 member with early | late
        · have := before range early
          omega
        · have := le_start_of_mem_spansFrom late
          omega
      have next := ih passed (pos + c.utf8Size) fun range member =>
        (before range member).trans (Nat.le_add_right ..)
      show outside (passed ++ spansFrom (pos + c.utf8Size) ps) pos (c :: ps.flatMap Piece.chars) = _
      rw [outside, if_neg uncovered, next]
      rfl
    | emoji cs =>
      have next := ih (passed ++ [⟨pos, pos + byteLength cs⟩]) (pos + byteLength cs) (by
        intro range member
        rcases List.mem_append.1 member with early | here
        · exact (before range early).trans (Nat.le_add_right ..)
        · rw [List.mem_singleton.1 here])
      rw [List.append_assoc, List.singleton_append] at next
      have inside := outside_append_of_covered
        (List.mem_append_right passed (List.mem_cons_self : ⟨pos, pos + byteLength cs⟩ ∈
          ⟨pos, pos + byteLength cs⟩ :: spansFrom (pos + byteLength cs) ps))
        cs (ps.flatMap Piece.chars) (Nat.le_refl pos) (Nat.le_refl _)
      exact inside.trans next

theorem EmojiFinder.strip_eq_outside (f : EmojiFinder) (text : List Char) :
    f.strip text = outside (f.spans text) 0 text := by
  have outer := outside_spansFrom [] 0 (f.pieces text) (fun range member => by cases member)
  rw [List.nil_append, f.pieces_flatMap_chars] at outer
  rw [f.strip_eq, ← outer]
  rfl

/-! ## Matches -/

theorem isBoundary_of_slice? {text part : List Char} {start stop : Nat}
    (slice : slice? text start stop = some part) : IsBoundary text start ∧ IsBoundary text stop := by
  obtain ⟨before, after, rfl, rfl, rfl⟩ := slice?_eq_some_iff.1 slice
  exact ⟨⟨before, ⟨part ++ after, by simp⟩, rfl⟩, ⟨before ++ part, ⟨after, rfl⟩, rfl⟩⟩

/-- The range holds an emoji of the text. A chain is the longest that starts there. -/
structure IsMatch (text : List Char) (range : Span) : Prop where
  nonempty : range.start < range.stop
  startBoundary : IsBoundary text range.start
  stopBoundary : IsBoundary text range.stop
  emoji : ∃ emoji, slice? text range.start range.stop = some emoji ∧
    (IsFlag emoji ∨ IsKeycap emoji ∨ IsChain emoji ∧
      ∀ stop chain, slice? text range.start stop = some chain → IsChain chain → stop ≤ range.stop)

theorem isMatch_of_mem_spans {text : List Char} {range : Span}
    (member : range ∈ unicodeEmoji.spans text) : IsMatch text range := by
  obtain ⟨front, emoji, back, pieces, start, stop⟩ := exists_piece_of_mem_spansFrom member
  rw [pieces_unicodeEmoji] at pieces
  obtain ⟨rest, rfl, cuts⟩ := exists_rest pieces
  obtain ⟨some, taken, -⟩ := exists_of_cut_emoji cuts
  obtain ⟨found, after, rfl, length, form⟩ := exists_emoji some
  have same : emoji = found := by rw [taken, ← length, List.take_left]
  subst same
  have size : 0 < byteLength emoji := byteLength_pos (by
    rintro rfl
    exact some length.symm)
  rw [Nat.zero_add] at start
  have slice : slice? (front.flatMap Piece.chars ++ (emoji ++ after)) range.start range.stop =
      Option.some emoji := by
    rw [start, slice?_append_eq_some_iff, stop, start]
    exact ⟨List.prefix_append .., rfl⟩
  obtain ⟨startBoundary, stopBoundary⟩ := isBoundary_of_slice? slice
  refine ⟨by omega, startBoundary, stopBoundary, emoji, slice, ?_⟩
  refine form.imp id (Or.imp id fun full => ⟨full.isChain, ?_⟩)
  intro last chain longer isChain
  rw [start, slice?_append_eq_some_iff] at longer
  obtain ⟨startsHere, rfl⟩ := longer
  -- a chain that is no longer is a part of what was found
  obtain ⟨more, rfl⟩ : chain <+: emoji :=
    List.prefix_of_prefix_length_le startsHere (List.prefix_append ..)
      (full.full chain isChain startsHere)
  rw [stop, start, byteLength_append]
  omega

theorem covered_of_isEmoji {text emoji : List Char} {start stop : Nat}
    (slice : slice? text start stop = some emoji) (isEmoji : IsEmoji emoji) :
    Covered (unicodeEmoji.spans text) start := by
  obtain ⟨before, after, rfl, rfl, -⟩ := slice?_eq_some_iff.1 slice
  have measured := isEmoji.emojiLength_ne_zero after
  rw [List.append_assoc]
  cases whole : emoji ++ after with
  | nil =>
    rw [whole] at measured
    exact absurd (Nat.le_zero.1 (emojiLength_le [])) measured
  | cons c rest =>
    rw [whole] at measured
    obtain ⟨front, p, back, inner, outer, pieces, rfl, here⟩ :=
      exists_piece (unicodeEmoji.pieces_flatMap_chars (before ++ c :: rest))
    cases p with
    | plain d =>
      -- no emoji was measured at a single character
      obtain ⟨rfl, rfl⟩ : inner = [] ∧ d = c := by
        cases inner <;> simp_all [Piece.chars]
      rw [pieces_unicodeEmoji] at pieces
      obtain ⟨tail, same, cuts⟩ := exists_rest pieces
      obtain ⟨tail, rfl, none⟩ := exists_of_cut_plain cuts
      rw [List.append_nil, List.append_cancel_left_eq] at same
      exact absurd (same ▸ none) measured
    | emoji found =>
      have size := c.utf8Size_pos
      have inside : found = inner ++ c :: outer := here
      have member := mem_spansFrom 0 front back found
      rw [← pieces] at member
      refine ⟨_, member, ?_, ?_⟩
      · simp
      · simp [inside]
        omega

/-- Only the last of the ranges can end where the text ends. -/
theorem endsWithEmoji_iff (text : List Char) :
    unicodeEmoji.endsWithEmoji text = true ↔
      ∃ range ∈ unicodeEmoji.spans text, range.stop = byteLength text := by
  simp only [EmojiFinder.endsWithEmoji, Option.any_eq_true, beq_iff_eq]
  constructor
  · rintro ⟨range, last, stop⟩
    exact ⟨range, List.mem_of_getLast? last, stop⟩
  · rintro ⟨range, member, stop⟩
    have apart : (unicodeEmoji.spans text).Pairwise fun a b => a.stop ≤ b.start := pairwise_spansFrom 0 _
    obtain ⟨front, last, ranges⟩ :=
      (List.eq_nil_or_concat' (unicodeEmoji.spans text)).resolve_left (List.ne_nil_of_mem member)
    refine ⟨last, by rw [ranges, List.getLast?_concat], ?_⟩
    rw [ranges, List.pairwise_append] at apart
    have lastMember : last ∈ unicodeEmoji.spans text := by
      rw [ranges]
      exact List.mem_append_right _ (List.mem_singleton_self _)
    obtain ⟨nonempty, -, ⟨before, ⟨after, whole⟩, length⟩, -⟩ := isMatch_of_mem_spans lastMember
    have inside : last.stop ≤ byteLength text := by
      rw [← length, ← whole, byteLength_append]
      exact Nat.le_add_right ..
    rw [ranges, List.mem_append, List.mem_singleton] at member
    rcases member with early | rfl
    · have := apart.2.2 range early last (List.mem_singleton_self _)
      omega
    · exact stop

/-- Emoji of the grammar are found, all of them and nothing else, in ranges that are apart and in order.
So the slices between them can be taken, and are the text without the ranges. -/
theorem spans_unicodeEmoji_exact (text : List Char) :
    (∀ range ∈ unicodeEmoji.spans text, IsMatch text range) ∧
      (unicodeEmoji.spans text).Pairwise (fun a b => a.stop ≤ b.start) ∧
      (∀ start stop emoji, slice? text start stop = some emoji → IsEmoji emoji →
        Covered (unicodeEmoji.spans text) start) ∧
      unicodeEmoji.strip? text = some (outside (unicodeEmoji.spans text) 0 text) ∧
      unicodeEmoji.strip text = outside (unicodeEmoji.spans text) 0 text ∧
      (unicodeEmoji.endsWithEmoji text = true ↔
        ∃ range, (unicodeEmoji.spans text).getLast? = some range ∧ range.stop = byteLength text) ∧
      (unicodeEmoji.endsWithEmoji text = true ↔
        ∃ range ∈ unicodeEmoji.spans text, range.stop = byteLength text) := by
  have stripped := unicodeEmoji.strip_eq_outside text
  refine ⟨fun range => isMatch_of_mem_spans, pairwise_spansFrom 0 _,
    fun start stop emoji => covered_of_isEmoji, ?_, stripped, ?_, endsWithEmoji_iff text⟩
  · rw [← stripped, EmojiFinder.strip?_eq, EmojiFinder.strip_eq]
  · simp only [EmojiFinder.endsWithEmoji, Option.any_eq_true, beq_iff_eq]

/-- A keycap, a flag, a chain before a joiner that joins nothing, and a picture before a tag that is not
closed. -/
def mixedText : List Char :=
  "1\ufe0f\u20e3a🇳🇴👨\u200d👩🏽\u200dz🏴".toList ++ [Char.ofNat 0xE0067]

theorem spans_unicodeEmoji_exact_mixed :
    (unicodeEmoji.spans mixedText = [⟨0, 7⟩, ⟨8, 16⟩, ⟨16, 31⟩, ⟨35, 39⟩] ∧
        (⟨16, 31⟩ : Span) ∈ unicodeEmoji.spans mixedText ∧ IsMatch mixedText ⟨16, 31⟩) ∧
      (slice? mixedText 23 31 = some "👩🏽".toList ∧ IsEmoji "👩🏽".toList ∧
        Covered (unicodeEmoji.spans mixedText) 23) ∧
      unicodeEmoji.strip? mixedText = some (outside (unicodeEmoji.spans mixedText) 0 mixedText) ∧
      unicodeEmoji.endsWithEmoji mixedText = false := by
  have spans : unicodeEmoji.spans mixedText = [⟨0, 7⟩, ⟨8, 16⟩, ⟨16, 31⟩, ⟨35, 39⟩] := by
    decide +kernel
  have member : (⟨16, 31⟩ : Span) ∈ unicodeEmoji.spans mixedText := by
    rw [spans]
    decide
  have slice : slice? mixedText 23 31 = some "👩🏽".toList := by decide +kernel
  have isEmoji : IsEmoji "👩🏽".toList :=
    .chain (.single (.mk (by decide +kernel) (.one (by decide +kernel)) .none))
  obtain ⟨isMatch, -, complete, stripped, -⟩ := spans_unicodeEmoji_exact mixedText
  exact ⟨⟨spans, member, isMatch _ member⟩, ⟨slice, isEmoji, complete _ _ _ slice isEmoji⟩, stripped,
    by decide +kernel⟩

end CuratedList.Text
