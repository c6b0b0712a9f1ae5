import CuratedList.Markdown.Destination
import CuratedList.Markdown.Leaf

/-! # Inline tokens

A line of text is cut into tokens: stretches of plain text, and the marks that inline constructs are made
of. Whether a mark means anything is decided later, when the whole paragraph is known.
-/

namespace CuratedList.Markdown
set_option autoImplicit false

/-- What a token is. -/
inductive TokenKind where
  /-- Text as it stands in the source; `escaped` if a backslash precedes it. -/
  | text (escaped : Bool)
  /-- Text that a character reference stands for. -/
  | reference (value : String)
  /-- A run of `*`, `_` or `~`. -/
  | marks (mark : Char) (count : Nat) (canOpen canClose : Bool)
  /-- A run of backticks; `escaped` if a backslash precedes it. -/
  | backticks (count : Nat) (escaped : Bool)
  | lessThan
  | openBracket
  | openImage
  | closeBracket
  | softBreak
  | hardBreak
  deriving DecidableEq, Repr, Inhabited

/-- A token and the positions it covers. -/
structure Token where
  start : Nat
  stop : Nat
  kind : TokenKind
  deriving Repr, Inhabited

/-- How a line of text ends. -/
inductive LineBreak where
  /-- The text ends with it. -/
  | none
  | soft (start : Nat)
  | spaced (start : Nat)
  | backslash (start : Nat)
  /-- The next line is the delimiter line of a table, which ends at `stop`. -/
  | table (stop : Nat)
  deriving Repr

/-! ## Emphasis marks -/

/-- A white-space character beside a mark. -/
def isBlankBeside (c : Char) : Bool := Text.isBlank c

/-- Can a run of `count` marks open emphasis? `before` is the character before it on its line. -/
def canOpenRun (mark : Char) (count : Nat) (before after : Option Char) : Bool :=
  match after with
  | none => false
  | some next =>
    if isBlankBeside next then false
    else
      match before with
      | none => true
      | some prev =>
        if mark == '*' && !isPunctuation next then true
        else if mark == '~' && count > 1 then true
        else if mark == '~' && prev == '~' && !isPunctuation next then true
        else isBlankBeside prev || isPunctuation prev

/-- Can a run of `count` marks close emphasis? -/
def canCloseRun (mark : Char) (count : Nat) (before after : Option Char) : Bool :=
  match before with
  | none => false
  | some prev =>
    if isBlankBeside prev then false
    else
      match after with
      | none => true
      | some next =>
        if (mark == '*' || (mark == '~' && count > 1)) && !isPunctuation prev then true
        else if mark == '~' && prev == '~' then true
        else isBlankBeside next || isPunctuation next

/-! ## Lines -/

/-- A line being cut. -/
structure LineScan where
  /-- The tokens so far, last one first. -/
  tokens : List Token
  /-- The start of the plain text that is not yet a token. -/
  mark : Nat
  /-- A backslash precedes that text. -/
  escaped : Bool := false
  pipes : Nat := 0
  lastPipe : Nat := 0

namespace LineScan

/-- Makes a token of the plain text up to `i`, if there is any. -/
def flush (l : LineScan) (i : Nat) : LineScan :=
  if l.mark < i then
    { l with tokens := ⟨l.mark, i, .text l.escaped⟩ :: l.tokens, mark := i, escaped := false }
  else { l with escaped := false }

/-- Makes a token of the plain text before `start`, and one of the mark from there to `stop`. -/
def push (l : LineScan) (start stop : Nat) (kind : TokenKind) : LineScan :=
  let l := l.flush start
  { l with tokens := ⟨start, stop, kind⟩ :: l.tokens, mark := stop }

end LineScan

/-- What surrounds a line: the containers of its block, where it starts, whether it may be the head of a
table, and the end of the text it belongs to. -/
structure LineFrame where
  containers : List Container
  start : Nat
  headOfTable : Bool
  stop : Nat

/-- The end of a line at position `i`, which is a line end of length `n`. -/
def finishLine (s : Source) (f : LineFrame) (l : LineScan) (i n : Nat) :
    List Token × Nat × LineBreak :=
  let table :=
    if f.headOfTable && l.pipes > 0 then
      tableHead? s f.containers f.start l.pipes l.lastPipe (i + n)
    else none
  match table with
  | some stop => (l.tokens, stop, .table stop)
  | none =>
    let next := i + n
    let slashes := s.countBack 0 (· == '\\') i
    if slashes % 2 = 1 && next < f.stop then
      ((l.flush (i - 1)).tokens, next, .backslash (i - 1))
    else
      let blanks := s.countBack 0 isInlineBlank i
      let l := l.flush (i - blanks)
      (l.tokens, next, if 2 ≤ blanks then .spaced (i - blanks) else .soft i)

/-- Cuts a line from position `i` on. Gives the tokens, last one first, the position after the line, and
how it ends. -/
def cutLine (s : Source) (f : LineFrame) (l : LineScan) (i : Nat) : List Token × Nat × LineBreak :=
  if _h : i < f.stop then
    match s[i]? with
    | none => finish i
    | some c =>
      let next (l : LineScan) (n : Nat) := cutLine s f l (i + 1 + n)
      match c with
      | '\n' | '\r' => finishLine s f l i ((s.lineEnd? i).getD 1)
      | '\\' =>
        match s[i + 1]? with
        | some d =>
          if i + 1 < f.stop && isAsciiPunctuation d then
            let l := { l.flush i with mark := i + 1 }
            if d = '`' then
              let n := s.runLength (i + 1) '`'
              next (l.push (i + 1) (i + 1 + n) (.backticks n true)) n
            else next { l with escaped := true } 1
          else next l 0
        | none => next l 0
      | '*' | '_' | '~' =>
        let n := s.runLength i c
        let before := if i = f.start then none else s[i - 1]?
        let after := s[i + n]?
        let opens := canOpenRun c n before after
        let closes := canCloseRun c n before after
        if (opens || closes) && (c != '~' || n ≤ 2) then
          next (l.push i (i + n) (.marks c n opens closes)) (n - 1)
        else next l (n - 1)
      | '`' =>
        let n := s.runLength i '`'
        next (l.push i (i + n) (.backticks n false)) (n - 1)
      | '<' => if s.hasAt (i + 1) '\\' then next l 0 else next (l.push i (i + 1) .lessThan) 0
      | '!' => if s.hasAt (i + 1) '[' then next (l.push i (i + 2) .openImage) 1 else next l 0
      | '[' => next (l.push i (i + 1) .openBracket) 0
      | ']' => next (l.push i (i + 1) .closeBracket) 0
      | '&' =>
        match entityAt? s i with
        | some (j, value) => next (l.push i j (.reference value)) (j - i - 1)
        | none => next l 0
      | '|' => next { l with pipes := l.pipes + 1, lastPipe := i } 0
      | _ => next l 0
  else finish i
  termination_by f.stop - i
where
  /-- The end of the text. -/
  finish (i : Nat) : List Token × Nat × LineBreak :=
    ((l.flush (i - s.countBack l.mark isInlineBlank i)).tokens, i, .none)

end CuratedList.Markdown
