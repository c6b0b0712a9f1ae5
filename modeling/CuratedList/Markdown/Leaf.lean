import CuratedList.Markdown.Container
import CuratedList.Markdown.Html
import CuratedList.Markdown.Label

/-! # Starts of leaf blocks

Thematic breaks, headings, fences, list markers and table heads, each recognised from a position where
the indentation of a line has been read; and the lines that end a paragraph.
-/

namespace CuratedList.Markdown
set_option autoImplicit false

/-! ## Single lines -/

/-- The position after a thematic break: three or more of one mark, alone on the line. -/
def thematicBreak? (s : Source) (i : Nat) : Option Nat :=
  match s[i]? with
  | none => none
  | some c =>
    if ['*', '-', '_'].contains c then
      let stop := s.skipWhile i fun d => d == c || d == ' ' || d == '\t'
      let marks := (s.extract i stop).foldl (fun n d => if d == c then n + 1 else n) 0
      if marks < 3 then none else (s.lineEnd? stop).map (stop + ·)
    else none

/-- The depth of the heading that `#` marks open at `i`. -/
def headingDepth? (s : Source) (i : Nat) : Option Nat :=
  let n := s.runLength i '#'
  if 1 ≤ n ∧ n ≤ 6 ∧ (s[i + n]?.all isAsciiBlank) then some n else none

/-- The depth of the heading that an underline at `i` makes of a paragraph, and the position after
it. -/
def underline? (s : Source) (i : Nat) : Option (Nat × Nat) :=
  match s[i]? with
  | some '=' => (s.blankLine? (i + s.runLength i '=')).map (1, ·)
  | some '-' => (s.blankLine? (i + s.runLength i '-')).map (2, ·)
  | _ => none

/-- The length and mark of the fence that opens a code block at `i`. -/
def fence? (s : Source) (i : Nat) : Option (Nat × Char) :=
  match s[i]? with
  | none => none
  | some c =>
    let n := s.runLength i c
    if n < 3 then none
    else if c = '~' then some (n, c)
    else if c = '`' then
      if (s.extract (i + n) (s.nextLine (i + n))).contains '`' then none else some (n, c)
    else none

/-- The position after a fence that closes a code block, opened by `n` marks `c`. The end of the source
closes it too. -/
def closingFence? (s : Source) (i n : Nat) (c : Char) : Option Nat :=
  if s.size ≤ i then some i
  else
    let m := s.runLength i c
    if m < n then none
    else
      let j := i + m + s.runLength (i + m) ' '
      (s.lineEnd? j).map fun _ => j

/-! ## List markers -/

/-- A list marker: its mark, the number of an ordered one, and the position after it. -/
structure ListMarker where
  mark : Char
  number : Option Nat
  stop : Nat

/-- The list marker at `i`, if white space or a line end follows it. At most `digits` digits make a
number. -/
def listMarker? (s : Source) (i digits : Nat) : Option ListMarker :=
  match s[i]? with
  | none => none
  | some c =>
    if ['-', '+', '*'].contains c then some ⟨c, none, i + 1⟩
    else if isAsciiDigit c then
      let (value, count) := digitsAt' i digits 0 0
      match s[i + count]? with
      | some d => if d = '.' ∨ d = ')' then some ⟨d, some value, i + count + 1⟩ else none
      | none => none
    else none
where
  /-- The number that at most `limit` digits at `j` denote, and how many there are. -/
  digitsAt' (j : Nat) : (limit : Nat) → (value count : Nat) → Nat × Nat
    | 0, value, count => (value, count)
    | limit + 1, value, count =>
      match s[j]? with
      | some d =>
        if isAsciiDigit d then
          digitsAt' (j + 1) limit (value * 10 + (d.toNat - '0'.toNat)) (count + 1)
        else (value, count)
      | none => (value, count)

/-! ## Tables -/

/-- The line under the head of a table: the position after it, and its number of columns. -/
structure Delimiters where
  columns : Nat := 0
  /-- No mark of the current column is read yet. -/
  fresh : Bool := true
  pipe : Bool := false
  hyphen : Bool := false
  columnHyphen : Bool := false

/-- Reads one character of a delimiter line. -/
def Delimiters.read? (d : Delimiters) : Char → Option Delimiters
  | ' ' => some d
  | ':' => some { d with fresh := false }
  | '-' => some { d with fresh := false, hyphen := true, columnHyphen := true }
  | '|' =>
    if d.columnHyphen then
      some { d with fresh := true, pipe := true, columns := d.columns + 1, columnHyphen := false }
    else none
  | _ => none

/-- The delimiter line whose content starts at `i`: the position after it, and its columns. -/
def delimiterLine? (s : Source) (i : Nat) : Option (Nat × Nat) :=
  let (n, c) := (Cursor.startOf i).takeUpTo s 4
  if n = 4 || s.size ≤ c.pos then none
  else
    let pipe := s.hasAt c.pos '|'
    let start := if pipe then c.pos + 1 else c.pos
    let stop := s.skipWhile start fun d => d != '\n' && d != '\r'
    match (s.extract start stop).foldl (fun (d : Option Delimiters) ch => d.bind (·.read? ch))
        (some { pipe }) with
    | none => none
    | some d =>
      if !d.pipe || !d.hyphen then none
      else
        some (stop + (s.lineEnd? stop).getD 0, if d.fresh then d.columns else d.columns + 1)

/-- The number of columns of a table head: its line starts at `start`, has `pipes` unescaped pipes, and
`last` is the position of the last one. -/
def headColumns (s : Source) (start pipes last : Nat) : Nat :=
  let first := s.skipWhile start isInlineBlank
  let pipes := if s.hasAt first '|' then pipes - 1 else pipes
  if s.isBlankFrom (last + 1) then pipes else pipes + 1

/-- The unescaped pipes of the line at `i`: their number, the last one, and the end of the line. -/
def countPipes (s : Source) (i : Nat) (escaped : Bool) (pipes last : Nat) : Nat × Nat × Nat :=
  if h : i < s.size then
    let c := s[i]
    if c = '\n' ∨ c = '\r' then (pipes, last, i)
    else if c = '\\' then countPipes s (i + 1) true pipes last
    else if c = '|' && !escaped then countPipes s (i + 1) false (pipes + 1) i
    else countPipes s (i + 1) false pipes last
  else (pipes, last, i)
  termination_by s.size - i

/-- The delimiter line of a table, where a line with `pipes` pipes ends at `lineStop`: the position after
it. -/
def tableHead? (s : Source) (ks : List Container) (start pipes last next : Nat) : Option Nat :=
  let (inside, c) := enterLine s next ks
  if !inside then none
  else
    match delimiterLine? s c.pos with
    | none => none
    | some (stop, columns) => if columns = headColumns s start pipes last then some stop else none

/-- Does a table whose head starts with a pipe open at `i`? -/
def startsPipedTable (s : Source) (ks : List Container) (i : Nat) : Bool :=
  s.hasAt i '|' &&
    let (pipes, last, stop) := countPipes s i false 0 i
    stop < s.size && (tableHead? s ks i pipes last (stop + (s.lineEnd? stop).getD 0)).isSome

/-! ## Lines that end a paragraph -/

/-- The label of the footnote definition at `i`, and the position after its colon. -/
def footnoteStart? (s : Source) (i : Nat) : Option (Nat × String) :=
  if s.hasAt i '[' && s.hasAt (i + 1) '^' then
    (labelAt? s (fun _ => none) (i + 2)).bind fun (j, label) =>
      if s.hasAt j ':' then some (j + 1, label) else none
  else none

/-- Can the list item at `i` end a paragraph of the same container? It has content, and a number it may
have is one. -/
def isInterruptingItem (s : Source) (inside : Bool) (i : Nat) : Bool :=
  match listMarker? s i 9 with
  | none => false
  | some m =>
    let spaced := match s[m.stop]? with
      | none => true
      | some c => c == ' ' || c == '\t' || c == '\n' || c == '\r'
    spaced && (!inside || (m.number.all (· == 1) && !s.isBlankFrom m.stop))

/-- Does the content at `i` end a paragraph, a table aside? -/
def endsParagraphText (s : Source) (inside : Bool) (i : Nat) : Bool :=
  (s.lineEnd? i).isSome || (thematicBreak? s i).isSome || (headingDepth? s i).isSome ||
    (fence? s i).isSome || s.hasAt i '>' || isInterruptingItem s inside i ||
    (s.hasAt i '<' && ((htmlBlockEnd? s i).isSome || startsBlockTag s i)) ||
    (footnoteStart? s i).isSome

/-- Does the content at `i` end a paragraph? `inside` tells whether the line belongs to the paragraph's
containers. -/
def endsParagraph (s : Source) (ks : List Container) (inside : Bool) (i : Nat) : Bool :=
  endsParagraphText s inside i || startsPipedTable s ks i

end CuratedList.Markdown
