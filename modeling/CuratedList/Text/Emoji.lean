import CuratedList.Text.Bytes
import CuratedList.Text.Emoji.Pictographic
import CuratedList.Text.Pattern
import CuratedList.Span

/-! # Emoji in a text

An emoji is a flag (two regional indicators), a keycap (`#`, `*` or a digit, then U+20E3) or a chain
of atoms joined by U+200D, tried in that order. An atom is a pictographic character, then at most one
presentation selector or skin tone, then at most one sequence of tag characters closed by U+E007F. The
pattern of emoji says this (`emojiPattern`), and its preferred match is the emoji.

A text is cut from left to right into pieces, each an emoji or a single other character. A finder is
any such cut; the pieces always concatenate to the text, so removing emoji never loses anything else.
The text without its emoji is put together from the slices between their ranges, and none of these slices
fails (`EmojiFinder.strip?_eq`).
-/

namespace CuratedList.Text
set_option autoImplicit false

/-! ## Pieces -/

/-- A part of a cut text. -/
inductive Piece where
  | plain (c : Char)
  | emoji (cs : List Char)
  deriving DecidableEq, Repr

namespace Piece

/-- The characters of a piece. -/
def chars : Piece → List Char
  | plain c => [c]
  | emoji cs => cs

/-- The characters of a piece that is not an emoji. -/
def plainChars : Piece → List Char
  | plain c => [c]
  | emoji _ => []

/-- Is the piece an emoji? -/
def isEmoji : Piece → Bool
  | plain _ => false
  | emoji _ => true

end Piece

/-- A way to find emoji: it cuts every text into pieces, and loses nothing. -/
structure EmojiFinder where
  pieces : List Char → List Piece
  pieces_flatMap_chars : ∀ cs, (pieces cs).flatMap Piece.chars = cs

namespace EmojiFinder

/-- The byte ranges of the emoji among `ps`, where the first piece starts at byte `at`. -/
def spansFrom (pos : Nat) : List Piece → List Span
  | [] => []
  | p :: ps =>
    let next := pos + byteLength p.chars
    match p with
    | .plain _ => spansFrom next ps
    | .emoji _ => ⟨pos, next⟩ :: spansFrom next ps

/-- The byte ranges of the emoji of a text, in order. -/
def spans (f : EmojiFinder) (cs : List Char) : List Span := spansFrom 0 (f.pieces cs)

/-- The last emoji ends where the text ends. -/
def endsWithEmoji (f : EmojiFinder) (cs : List Char) : Bool :=
  (f.spans cs).getLast?.any fun range => range.stop == byteLength cs

/-- The text from byte `last` on without the bytes of these ranges, put together from the slices between
them; `none` if one cannot be taken. -/
def deleteFrom? (cs : List Char) (last : Nat) : List Span → Option (List Char)
  | [] => slice? cs last (byteLength cs)
  | range :: ranges => do
    let kept ← slice? cs last range.start
    let more ← deleteFrom? cs range.stop ranges
    return kept ++ more

/-- The slices between the emoji of a text. -/
def strip? (f : EmojiFinder) (cs : List Char) : Option (List Char) := deleteFrom? cs 0 (f.spans cs)

/-- `gap` is what was passed since the last emoji, and is not yet taken. -/
theorem deleteFrom?_spansFrom (before gap : List Char) (ps : List Piece) :
    deleteFrom? (before ++ gap ++ ps.flatMap Piece.chars) (byteLength before)
        (spansFrom (byteLength (before ++ gap)) ps) =
      some (gap ++ ps.flatMap Piece.plainChars) := by
  induction ps generalizing before gap with
  | nil => exact slice?_eq_some_iff.2 ⟨before, [], by simp, rfl, by simp⟩
  | cons p ps ih =>
    cases p with
    | plain c =>
      have next := ih before (gap ++ [c])
      simpa [spansFrom, Piece.chars, Piece.plainChars, Nat.add_assoc] using next
    | emoji cs =>
      have kept : slice? (before ++ gap ++ (cs ++ ps.flatMap Piece.chars)) (byteLength before)
          (byteLength (before ++ gap)) = some gap := slice?_eq_some_iff.2 ⟨before, _, rfl, rfl, rfl⟩
      have next := ih (before ++ gap ++ cs) []
      simp only [List.append_nil, List.nil_append, List.append_assoc] at next kept
      simp only [spansFrom, deleteFrom?, List.flatMap_cons, Piece.chars, Piece.plainChars,
        List.append_assoc, kept, ← byteLength_append, next, bind, Option.bind, pure, List.nil_append]

theorem strip?_eq (f : EmojiFinder) (cs : List Char) :
    f.strip? cs = some ((f.pieces cs).flatMap Piece.plainChars) := by
  have deleted := deleteFrom?_spansFrom [] [] (f.pieces cs)
  simp only [List.nil_append, f.pieces_flatMap_chars, byteLength_nil] at deleted
  exact deleted

/-- The text without its emoji. -/
def strip (f : EmojiFinder) (cs : List Char) : List Char :=
  (f.strip? cs).get (by rw [strip?_eq, Option.isSome_some])

theorem strip_eq (f : EmojiFinder) (cs : List Char) :
    f.strip cs = (f.pieces cs).flatMap Piece.plainChars := by
  simp only [strip, strip?_eq, Option.get_some]

end EmojiFinder

/-! ## The emoji of Unicode -/

/-- A character that is a picture on its own. -/
def isPictographic (c : Char) : Bool := pictographicRanges.holds c

/-- One of the letters that flags are made of. -/
def isRegionalIndicator (c : Char) : Bool := 0x1F1E6 ≤ c.toNat && c.toNat ≤ 0x1F1FF

/-- A presentation selector or a skin tone. -/
def isEmojiVariant (c : Char) : Bool :=
  c.toNat == 0xFE0F || (0x1F3FB ≤ c.toNat && c.toNat ≤ 0x1F3FF)

/-- A tag character other than the closing one. -/
def isTag (c : Char) : Bool := 0xE0020 ≤ c.toNat && c.toNat ≤ 0xE007E

/-- A character that starts a keycap. -/
def isKeycapBase (c : Char) : Bool := c == '#' || c == '*' || ('0' ≤ c && c ≤ '9')

/-- Two regional indicators. -/
def flagPattern : Pattern := .seq (.char isRegionalIndicator) (.char isRegionalIndicator)

/-- A keycap, with or without a presentation selector. -/
def keycapPattern : Pattern :=
  .seq (.char isKeycapBase) (.seq (.optional (.code 0xFE0F)) (.code 0x20E3))

/-- Some tag characters and the closing one. -/
def tagsPattern : Pattern := .seq (.seq (.char isTag) (.many (.char isTag))) (.code 0xE007F)

/-- A picture, its variant and its tags. -/
def atomPattern : Pattern :=
  .seq (.char isPictographic) (.seq (.optional (.char isEmojiVariant)) (.optional tagsPattern))

/-- Atoms joined by U+200D. -/
def chainPattern : Pattern := .seq atomPattern (.many (.seq (.code 0x200D) atomPattern))

def emojiPattern : Pattern := .either flagPattern (.either keycapPattern chainPattern)

/-- The pieces of a text, where an emoji is what `len` measures at a position. -/
def cut (len : List Char → Nat) (cs : List Char) : List Piece :=
  match cs with
  | [] => []
  | c :: rest =>
    let n := len (c :: rest)
    if n = 0 then .plain c :: cut len rest
    else .emoji ((c :: rest).take n) :: cut len (rest.drop (n - 1))
  termination_by cs.length
  decreasing_by all_goals simp only [List.length_drop, List.length_cons]; omega

theorem cut_flatMap_chars (len : List Char → Nat) (cs : List Char) :
    (cut len cs).flatMap Piece.chars = cs := by
  fun_induction cut len cs with
  | case1 => rfl
  | case2 c rest n h ih => simp [Piece.chars, ih]
  | case3 c rest n h ih =>
    obtain ⟨m, hm⟩ : ∃ m, n = m + 1 := Nat.exists_eq_succ_of_ne_zero h
    simp only [hm, Nat.add_sub_cancel] at ih
    simp only [List.flatMap_cons, Piece.chars, hm, List.take_succ_cons, List.cons_append,
      Nat.add_sub_cancel, ih, List.take_append_drop]

/-- Finds the emoji that Unicode defines. -/
def unicodeEmoji : EmojiFinder := ⟨cut emojiPattern.matchLength, cut_flatMap_chars _⟩

/-- Finds the occurrences of one text, from left to right without overlap. -/
def literalEmoji (s : List Char) : EmojiFinder :=
  ⟨cut fun cs => if s.isPrefixOf cs then s.length else 0, cut_flatMap_chars _⟩

end CuratedList.Text
