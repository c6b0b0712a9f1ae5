import CuratedList.Text.Bytes
import CuratedList.Text.Emoji
import CuratedList.Text.Words

/-! # How a description may end

`full` is the description as text up to its last node, and `suffix` the text of that node alone. The
tests are tried in order and the first that decides wins: a lone code span never ends a description,
a double quote right after a mark decides by the number of marks, a mark always ends it, without any
mark only a short text with an emoji does, and otherwise a closing parenthesis or an emoji.

Backticks are measured by the bytes that a text has more with them than without. What stands between those
at its two ends is then taken by offsets, and no text makes this fail (`isSome_isSingleCodeSpan?`).
-/

namespace CuratedList
set_option autoImplicit false

open Text

/-- A mark that ends a sentence. -/
def isTerminalMark (c : Char) : Bool := ['.', '!', '?', '…'].contains c

/-- A closing double quote. -/
def isClosingDoubleQuote (c : Char) : Bool := ['"', '”'].contains c

/-- A closing quote, double or single. -/
def isClosingQuote (c : Char) : Bool := ['"', '”', '\'', '’'].contains c

/-- The lengths of the maximal runs of backticks, where `run` backticks precede `cs`. -/
def backtickRuns : (run : Nat) → (cs : List Char) → List Nat
  | run, [] => [run]
  | run, c :: cs => if c = '`' then backtickRuns (run + 1) cs else run :: backtickRuns 0 cs

/-- Is the whole text one code span, with marks after it or not? The backticks at its two ends are counted in
bytes, and `none` means that the part between them cannot be taken. -/
def isSingleCodeSpan? (text : List Char) : Option Bool := do
  let body := dropWhileEnd isTerminalMark text
  let opening ← sub? (byteLength body) (byteLength (body.dropWhile (· == '`')))
  let closing ← sub? (byteLength body) (byteLength (dropWhileEnd (· == '`') body))
  if opening = 0 ∨ opening ≠ closing ∨ byteLength body ≤ opening * 2 then return false
  else
    let stop ← sub? (byteLength body) closing
    let inner ← slice? body opening stop
    return !(backtickRuns 0 inner).contains opening

/-- The subtractions do not fail: they measure the backticks at the two ends, and what stands before the
last ones. -/
theorem isSingleCodeSpan?_eq (text : List Char) :
    isSingleCodeSpan? text =
      let body := dropWhileEnd isTerminalMark text
      let opening := byteLength (body.takeWhile (· == '`'))
      let closing := byteLength (takeWhileEnd (· == '`') body)
      if opening = 0 ∨ opening ≠ closing ∨ byteLength body ≤ opening * 2 then some false
      else
        (slice? body opening (byteLength (dropWhileEnd (· == '`') body))).map fun inner =>
          !(backtickRuns 0 inner).contains opening := by
  unfold isSingleCodeSpan?
  generalize dropWhileEnd isTerminalMark text = body
  have opening := sub?_byteLength_back (body.takeWhile (· == '`')) (body.dropWhile (· == '`'))
  have closing := sub?_byteLength_front (dropWhileEnd (· == '`') body) (takeWhileEnd (· == '`') body)
  have stop := sub?_byteLength_back (dropWhileEnd (· == '`') body) (takeWhileEnd (· == '`') body)
  rw [List.takeWhile_append_dropWhile] at opening
  rw [dropWhileEnd_append_takeWhileEnd] at closing stop
  simp only [opening, closing, stop, bind, Option.bind, pure]
  split
  · rfl
  · cases slice? body _ _ <;> rfl

theorem isSome_isSingleCodeSpan? (text : List Char) : (isSingleCodeSpan? text).isSome = true := by
  rw [isSingleCodeSpan?_eq]
  generalize dropWhileEnd isTerminalMark text = body
  have fromStart := List.takeWhile_append_dropWhile (p := (· == '`')) (l := body)
  have fromEnd := dropWhileEnd_append_takeWhileEnd (· == '`') body
  have lengths := congrArg byteLength fromEnd
  rw [byteLength_append] at lengths
  dsimp only
  split
  · rfl
  next fenced =>
    -- both fences fit in the text, so the first one ends no later than the second one starts
    obtain ⟨inner, taken⟩ := exists_slice? (fromStart.trans fromEnd.symm) (by omega)
    rw [fromStart] at taken
    rw [taken]
    rfl

/-- The whole text is one code span, with marks after it or not. -/
def isSingleCodeSpan (text : List Char) : Bool :=
  (isSingleCodeSpan? text).get (isSome_isSingleCodeSpan? text)

theorem isSingleCodeSpan?_eq_some (text : List Char) :
    isSingleCodeSpan? text = some (isSingleCodeSpan text) :=
  (Option.some_get (isSome_isSingleCodeSpan? text)).symm

theorem isSingleCodeSpan_eq_iff {text : List Char} {answer : Bool} :
    isSingleCodeSpan text = answer ↔ isSingleCodeSpan? text = some answer := by
  rw [isSingleCodeSpan?_eq_some, Option.some.injEq]

/-- For a text that ends in a mark and a closing double quote: is there only one mark? -/
def quoteAfterTerminal (text : List Char) : Option Bool :=
  match text.reverse with
  | quote :: mark :: before =>
    if isClosingDoubleQuote quote && isTerminalMark mark then
      some !(before.head?.any isTerminalMark)
    else none
  | _ => none

/-- The text ends in a mark, with at most one closing quote after it. -/
def endsWithTerminal (text : List Char) : Bool :=
  match text.reverse with
  | [] => false
  | last :: before =>
    if isClosingQuote last then before.head?.any isTerminalMark else isTerminalMark last

/-- There is a mark somewhere. -/
def hasTerminal (text : List Char) : Bool := text.any isTerminalMark

/-- At most two words, the last of which ends in an emoji. -/
def isShortEmojiEnding (emoji : EmojiFinder) (text : List Char) : Bool :=
  let ws := words text
  decide (ws.length ≤ 2) && ws.getLast?.any emoji.endsWithEmoji

/-- A closing parenthesis or an emoji comes last. -/
def isOpenEndedSuffix (emoji : EmojiFinder) (suffix : List Char) : Bool :=
  suffix.getLast? == some ')' || emoji.endsWithEmoji suffix

/-- May a description end this way? -/
def endingIsValid (emoji : EmojiFinder) (full suffix : List Char) : Bool :=
  if isSingleCodeSpan full then false
  else
    match quoteAfterTerminal full with
    | some valid => valid
    | none =>
      if endsWithTerminal full then true
      else if !hasTerminal full then isShortEmojiEnding emoji full
      else isOpenEndedSuffix emoji suffix

end CuratedList
