import CuratedList.Markdown.Destination
import CuratedList.Markdown.Outline
import CuratedList.Markdown.Phrase

/-! # Brackets, code and raw HTML

The tokens of a paragraph become pieces from left to right. Code spans, autolinks and raw HTML take the
tokens they cover. An opening bracket waits for a closing one; when that comes, the two make a link, an
image or a footnote reference, or else stay text. No link stands in a link.
-/

namespace CuratedList.Markdown
set_option autoImplicit false

/-- An opening bracket, and the pieces after it, last one first. -/
structure Bracket where
  image : Bool
  /-- The bracket cannot open a link, because a later one did. -/
  spent : Bool := false
  start : Nat
  /-- The position after the bracket. -/
  content : Nat
  inside : List Piece := []

/-- What inline content can refer to, and where it stands. -/
structure InlineFrame where
  /-- The source up to the end of the block. -/
  source : Source
  containers : List Container
  definitions : List (List Char × String)
  footnotes : List (List Char)

namespace InlineFrame

/-- The destination of a label. -/
def destination? (f : InlineFrame) (label : String) : Option String :=
  f.definitions.reverse.lookup (labelKey label)

/-- Is there a footnote of this label? -/
def hasFootnote (f : InlineFrame) (label : String) : Bool := f.footnotes.contains (labelKey label)

/-- The position where the content of the line at `i` starts. -/
def lineContent (f : InlineFrame) (i : Nat) : Nat := skipPrefixes f.source i f.containers

/-! ## Code spans -/

/-- The text of a code span from `i` up to `stop`, without the prefixes of its lines and with spaces for
its line ends; `done` precedes it, last character first. -/
def codeText (f : InlineFrame) (stop i : Nat) (done : List Char) : List Char :=
  if _h : i < stop then
    match f.source[i]? with
    | none => done.reverse
    | some c =>
      if c = '\n' ∨ c = '\r' then
        let next := i + (f.source.lineEnd? i).getD 1
        codeText f stop (max (i + 1) (f.lineContent next)) (' ' :: done)
      else codeText f stop (i + 1) (c :: done)
  else done.reverse
  termination_by stop - i

/-- One space at either end of a code span does not count, unless there is nothing but spaces. -/
def trimCode (cs : List Char) : List Char :=
  match cs with
  | ' ' :: rest =>
    if rest.getLast? = some ' ' && !rest.all (· == ' ') then rest.dropLast else cs
  | _ => cs

/-- The value of a code span between two runs of backticks. -/
def codeValue (f : InlineFrame) (i stop : Nat) : String :=
  String.ofList (trimCode (f.codeText stop i []))

/-! ## Links -/

/-- White space with at most one line end, between the parts of a link. -/
def linkGap (f : InlineFrame) (i : Nat) : Nat :=
  let s := f.source
  let i := s.skipWhile i isInlineBlank
  match s.lineEnd? i with
  | none => i
  | some 0 => i
  | some n => s.skipWhile (f.lineContent (i + n)) isInlineBlank

/-- The destination in parentheses at `i`, with a title or not: the position after it. -/
def inlineLink? (f : InlineFrame) (i : Nat) : Option (Nat × String) :=
  let s := f.source
  if !s.hasAt i '(' then none
  else
    match destinationAt? s (f.linkGap (i + 1)) with
    | none => none
    | some (j, url) =>
      let j := f.linkGap j
      let j := match titleAt? s j with
        | some k => f.linkGap k
        | none => j
      if s.hasAt j ')' then some (j + 1, url) else none

/-- A label in brackets. -/
inductive Reference where
  | link (label : String)
  | footnote (label : String)

/-- The label in the brackets at `i`: the position after it. A footnote label stands on one line. -/
def reference? (f : InlineFrame) (s : Source) (i : Nat) : Option (Nat × Reference) :=
  if !s.hasAt i '[' then none
  else
    let footnote :=
      if s.hasAt (i + 1) '^' && !s.hasAt (i + 2) ']' then labelAt? s (fun _ => none) (i + 2) else none
    match footnote with
    | some (j, label) => some (j, .footnote label)
    | none =>
      (labelAt? s (fun j => some (f.lineContent j)) (i + 1)).map fun (j, label) => (j, .link label)

end InlineFrame

/-! ## Pieces -/

/-- A text piece. -/
def textPiece (value : String) (start stop : Nat) : Piece := .phrase (.leaf (.text value) start stop)

/-- The text of the source between two positions, as a piece. -/
def sourcePiece (s : Source) (start stop : Nat) : Piece := textPiece (s.slice start stop) start stop

/-- The state of reading tokens. -/
structure Assembly where
  /-- The pieces before all open brackets, last one first. -/
  base : List Piece := []
  /-- The open brackets, innermost first. -/
  opened : List Bracket := []
  /-- The ends of closing brackets whose labels were looked up in vain. -/
  tried : List Nat := []

namespace Assembly

/-- Adds pieces, given last one first. -/
def pushAll (a : Assembly) (ps : List Piece) : Assembly :=
  match a.opened with
  | [] => { a with base := ps ++ a.base }
  | b :: bs => { a with opened := { b with inside := ps ++ b.inside } :: bs }

/-- Adds one piece. -/
def push (a : Assembly) (p : Piece) : Assembly := a.pushAll [p]

/-- Turns the innermost open bracket into text. -/
def dropBracket (s : Source) (a : Assembly) : Assembly :=
  match a.opened with
  | [] => a
  | b :: bs => { a with opened := bs }.pushAll (b.inside ++ [sourcePiece s b.start b.content])

/-- Turns all open brackets into text. -/
def dropAll (s : Source) (a : Assembly) : Assembly :=
  a.opened.foldl (fun a _ => a.dropBracket s) a

/-- Brackets that are still open cannot open a link any more. -/
def spendAll (a : Assembly) : Assembly :=
  { a with opened := a.opened.map fun b => if b.image then b else { b with spent := true } }

end Assembly

/-- The tokens from position `i` on; a token that starts earlier is cut. -/
def dropTokens (i : Nat) : List Token → List Token
  | [] => []
  | t :: ts => if t.stop ≤ i then dropTokens i ts else { t with start := max t.start i } :: ts

theorem length_dropTokens (i : Nat) (ts : List Token) : (dropTokens i ts).length ≤ ts.length := by
  induction ts with
  | nil => simp [dropTokens]
  | cons t ts ih =>
    simp only [dropTokens]
    split
    · simp only [List.length_cons]
      omega
    · simp

/-- The closing run of backticks for an opening one of `count`. -/
def closingBackticks? (count : Nat) (ts : List Token) : Option Token :=
  ts.find? fun t =>
    match t.kind with
    | .backticks n _ => n == count
    | _ => false

namespace InlineFrame

/-- The piece that a closed bracket makes. -/
def linkPiece (b : Bracket) (form : LinkForm) (url : String) (stop : Nat) : Piece :=
  let children := matchRuns b.inside.reverse
  .phrase (.nest (if b.image then .image url else .link form url) children b.start stop)

/-- How a closing bracket is resolved. -/
inductive Closing where
  /-- It stays text. -/
  | text
  /-- It stays text, and so does the bracket after it that ends at `stop`, unless a destination follows
  that one. -/
  | unknown (stop : Nat)
  /-- It makes a link or an image that ends at `stop`; the tokens before `next` belong to it. -/
  | link (form : LinkForm) (url : String) (stop next : Nat)
  | footnote (label : String)
  deriving Repr

/-- The label that follows a closing bracket, and what it means for the bracket. -/
inductive Following where
  /-- `[label]` that ends at the position. -/
  | label (label : String) (stop : Nat)
  /-- `[]` -/
  | empty
  | other

/-- What follows a closing bracket, by the next token. -/
def following (f : InlineFrame) (ts : List Token) : Following :=
  match ts with
  | [] => .other
  | t :: _ =>
    if t.kind = .text true then .other
    else if f.source.hasListAt t.start ['[', ']'] then .empty
    else
      match f.reference? f.source t.start with
      | some (j, .link label) => .label label j
      | some (_, .footnote _) => .other
      | none => .other

/-- Resolves a closing bracket `t` with the bracket `b` that it closes; `ts` are the tokens after it. -/
def resolve (f : InlineFrame) (b : Bracket) (t : Token) (tried : Bool) (ts : List Token) : Closing :=
  match f.inlineLink? t.stop with
  | some (stop, url) => .link .direct url stop stop
  | none =>
    match f.following ts with
    | .label label stop =>
      match f.destination? label with
      | some url => .link .reference url stop stop
      | none => .unknown stop
    | following =>
      let own := (f.reference? (f.source.upTo t.stop) (b.content - 1)).bind fun (j, r) =>
        if j = t.stop && !tried then some r else none
      match own with
      | none => .text
      | some (.footnote label) => if f.hasFootnote label then .footnote label else .text
      | some (.link label) =>
        match f.destination? label with
        | none => .text
        | some url =>
          match following with
          | .empty => .link .reference url t.stop (t.stop + 2)
          | _ => .link .reference url t.stop t.stop

/-- Reads tokens up to the end of the block. -/
def assemble (f : InlineFrame) (a : Assembly) (tokens : List Token) : Assembly :=
  match tokens with
  | [] => a.dropAll f.source
  | t :: ts =>
    let s := f.source
    let asText := sourcePiece s t.start t.stop
    match t.kind with
    | .text _ => assemble f (a.push asText) ts
    | .reference value => assemble f (a.push (textPiece value t.start t.stop)) ts
    | .marks mark count canOpen canClose =>
      assemble f (a.push (.run ⟨mark, count, count, canOpen, canClose, t.start⟩)) ts
    | .softBreak => assemble f (a.push (.phrase (.leaf .softBreak t.start t.stop))) ts
    | .hardBreak => assemble f (a.push (.phrase (.leaf .hardBreak t.start t.stop))) ts
    | .openBracket => assemble f { a with opened := ⟨false, false, t.start, t.stop, []⟩ :: a.opened } ts
    | .openImage => assemble f { a with opened := ⟨true, false, t.start, t.stop, []⟩ :: a.opened } ts
    | .backticks count escaped =>
      let wanted := if escaped then count - 1 else count
      match if wanted = 0 then none else closingBackticks? wanted ts with
      | none => assemble f (a.push asText) ts
      | some close =>
        let value := f.codeValue t.stop close.start
        let a := if escaped then a.push (sourcePiece s t.start (t.start + 1)) else a
        let start := if escaped then t.start + 1 else t.start
        assemble f (a.push (.phrase (.leaf (.code value) start close.stop))) (dropTokens close.stop ts)
    | .lessThan =>
      match ts.head? with
      | none => assemble f (a.push asText) ts
      | some next =>
        match autolinkEnd? s next.start with
        | some j =>
          let url := s.slice next.start j
          let content := Phrase.leaf (.text (s.slice (t.start + 1) j)) (t.start + 1) j
          let link := Phrase.nest (.link .direct url) [content] t.start (j + 1)
          assemble f (a.push (.phrase link)) (dropTokens (j + 1) ts)
        | none =>
          match inlineHtmlAt? s f.lineContent (next.start - 1) with
          | some (j, value) =>
            assemble f (a.push (.phrase (.leaf (.html value) t.start j))) (dropTokens j ts)
          | none => assemble f (a.push asText) ts
    | .closeBracket =>
      match a.opened with
      | [] => assemble f (a.push asText) ts
      | b :: bs =>
        if b.spent then assemble f ((a.dropBracket s).push asText) ts
        else
          match f.resolve b t (a.tried.contains t.stop) ts with
          | .text => assemble f ((a.dropBracket s).push asText) ts
          | .unknown stop =>
            assemble f ({ a with tried := stop :: a.tried }.dropBracket s |>.push asText) ts
          | .link form url stop next =>
            let a := { a with opened := bs }.push (linkPiece b form url stop)
            assemble f (if b.image then a else a.spendAll) (dropTokens next ts)
          | .footnote label =>
            let a := { a with opened := bs }
            let a := if b.image then a.push (sourcePiece s b.start (b.start + 1)) else a
            let start := if b.image then b.start + 1 else b.start
            let reference := Phrase.leaf (.footnoteReference label) start t.stop
            assemble f ((a.push (.phrase reference)).dropAll s) ts
  termination_by tokens.length
  decreasing_by
    all_goals simp only [List.length_cons]
    all_goals first
      | omega
      | exact Nat.lt_succ_of_le (length_dropTokens _ _)

/-- The phrases of a block's tokens. -/
def phrases (f : InlineFrame) (tokens : List Token) : List Phrase :=
  matchRuns (f.assemble {} tokens).base.reverse

end InlineFrame
end CuratedList.Markdown
