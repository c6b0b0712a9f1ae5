import CuratedList.Markdown.Definition
import CuratedList.Markdown.Event
import CuratedList.Markdown.Token

/-! # Outlines

The block structure of a source, read line by line. A line first continues the open containers whose
prefixes it has, then opens new ones, and what is left is the content of a leaf block. Texts are kept as
tokens; definitions of links and footnotes are collected on the way.
-/

namespace CuratedList.Markdown
set_option autoImplicit false

/-- A block with the positions it covers. -/
inductive Outline where
  | paragraph (tokens : List Token) (start stop : Nat)
  | heading (depth : Nat) (tokens : List Token) (start stop : Nat)
  | rule (start stop : Nat)
  /-- A block whose content is not looked at: code, HTML or a table. -/
  | sealed (tag : Tag) (start stop : Nat)
  /-- The check box of an item without further content. -/
  | task (start stop : Nat)
  | nest (container : Container) (children : List Outline) (start stop : Nat)
  deriving Repr, Inhabited

/-- A container that is still open, with its blocks so far, last one first. -/
structure OpenContainer where
  container : Container
  start : Nat
  done : List Outline := []

/-- What has been read so far. -/
structure Reading where
  /-- The finished blocks outside all containers, last one first. -/
  done : List Outline := []
  /-- The open containers, innermost first. -/
  opened : List OpenContainer := []
  /-- The line before was blank. -/
  lastBlank : Bool := false
  /-- An item began with an empty line; its content could start here. -/
  emptyItem : Option Nat := none
  /-- The destinations of link labels, by key; the first definition of a label is last. -/
  definitions : List (List Char × String) := []
  /-- The keys of defined footnotes. -/
  footnotes : List (List Char) := []

namespace Reading

/-- The open containers, outermost first. -/
def containers (r : Reading) : List Container := (r.opened.map OpenContainer.container).reverse

/-- Adds a finished block to the innermost open container. -/
def append (r : Reading) (o : Outline) : Reading :=
  match r.opened with
  | [] => { r with done := o :: r.done }
  | k :: ks => { r with opened := { k with done := o :: k.done } :: ks }

/-- Opens a container. -/
def openContainer (r : Reading) (container : Container) (start : Nat) : Reading :=
  { r with opened := { container, start } :: r.opened }

/-- Closes the innermost open container at position `stop`. -/
def close (r : Reading) (stop : Nat) : Reading :=
  match r.opened with
  | [] => r
  | k :: ks =>
    let closed := { r with opened := ks }.append (.nest k.container k.done.reverse k.start stop)
    match k.container with
    | .list true _ => { closed with emptyItem := none }
    | _ => closed

/-- Closes `n` containers. -/
def closeMany (r : Reading) (stop : Nat) : (n : Nat) → Reading
  | 0 => r
  | n + 1 => closeMany (r.close stop) stop n

/-! ## Lists -/

/-- Makes a list loose. -/
def OpenContainer.loosen (k : OpenContainer) : OpenContainer :=
  match k.container with
  | .list _ mark => { k with container := .list false mark }
  | _ => k

/-- An item that starts with an empty line ends at a second one. -/
def finishEmptyItem (r : Reading) : Reading :=
  let closed :=
    match r.emptyItem, r.opened with
    | some stop, { container := .item _, .. } :: _ => if r.lastBlank then r.close stop else r
    | _, _ => r
  { closed with emptyItem := none }

/-- Closes the innermost container if it is a list. A blank line before the next block makes the list
around that block loose. -/
def finishList (r : Reading) (stop : Nat) : Reading :=
  let r := r.finishEmptyItem
  let r :=
    match r.opened with
    | { container := .list .., .. } :: _ => r.close stop
    | _ => r
  if r.lastBlank then
    let opened :=
      match r.opened with
      | k :: l :: ks => k :: OpenContainer.loosen l :: ks
      | ks => ks
    { r with opened, lastBlank := false }
  else r

/-- Opens a list for an item with this marker, unless the innermost container is such a list. -/
def continueList (r : Reading) (start : Nat) (mark : Char) : Reading :=
  let r := r.finishEmptyItem
  let fresh (r : Reading) : Reading :=
    { r.openContainer (.list true mark) start with lastBlank := false }
  match r.opened with
  | [] => fresh r
  | k :: ks =>
    match k.container with
    | .list _ existing =>
      if existing = mark then
        if r.lastBlank then { r with opened := OpenContainer.loosen k :: ks, lastBlank := false } else r
      else fresh (r.finishList start)
    | _ => fresh (r.finishList start)

/-! ## New containers -/

/-- Where the content of a line starts after its container markers. -/
structure LineContent where
  /-- The position that containers closed by this line end at. -/
  start : Nat
  cursor : Cursor

/-- A list marker at a cursor, with white space after it: the mark, the indentation of the content when
the marker is indented by `outer` columns, and the cursor at the content. -/
def itemMarker? (s : Source) (c : Cursor) (outer : Nat) : Option (Char × Nat × Cursor) :=
  match listMarker? s c.pos 9 with
  | none => none
  | some m =>
    if m.number.isNone && (thematicBreak? s c.pos).isSome then none
    else
      let after := { c with pos := m.stop }
      let (missing, spaced) := after.take s 1
      if missing ≠ 0 && !spaced.atLineEnd s then none
      else
        let indent := outer + (m.stop - c.pos) + 1
        if s.isBlankFrom spaced.pos then some (m.mark, indent, spaced)
        else
          let (extra, content) := spaced.takeUpTo s 4
          if extra < 4 then some (m.mark, indent + extra, content)
          else some (m.mark, indent, spaced)

/-- The check box of a task at a cursor, with white space or a line end after it: the cursor after the
box. -/
def taskBox? (s : Source) (c : Cursor) : Option Cursor :=
  let (_, c) := c.takeUpTo s 3
  if !s.hasAt c.pos '[' || !s.hasAt (c.pos + 2) ']' then none
  else
    match s[c.pos + 1]?, s[c.pos + 3]? with
    | some box, some after =>
      if (isInlineBlank box || box == 'x' || box == 'X') && isAsciiBlank after then
        some { c with pos := c.pos + 3 }
      else none
    | _, _ => none

/-- Starts the footnote definition at `i`; none may stand in another. -/
def startFootnote (r : Reading) (i : Nat) (label : String) : Reading :=
  let r := r.finishList i
  let r :=
    match r.opened with
    | { container := .footnote _, .. } :: _ => r.close i
    | _ => r
  { r.openContainer (.footnote label) i with footnotes := labelKey label :: r.footnotes }

/-- Opens the containers whose markers stand at the start of a line's content. Gives the position after
the line if an empty item takes all of it, else the content that is left. -/
def openMarkers (s : Source) (r : Reading) (l : LineContent) : Reading × (Nat ⊕ LineContent) :=
  let (outer, c) := l.cursor.takeUpTo s 4
  let stay := (r, Sum.inr l)
  if 4 ≤ outer then stay
  else
    match footnoteStart? s c.pos with
    | some (colon, label) =>
      let stop := s.skipWhile colon isInlineBlank
      if _h : l.cursor.pos < stop ∧ stop ≤ s.size then
        openMarkers s (r.startFootnote c.pos label) ⟨stop, .startOf stop⟩
      else stay
    | none =>
      match itemMarker? s c outer with
      | some (mark, indent, content) =>
        let start := c.pos - outer
        let r := (r.continueList start mark).openContainer (.item indent) start
        match s.blankLine? content.pos with
        | some stop => ({ r with emptyItem := some stop }, .inl stop)
        | none =>
          match taskBox? s content with
          | some box =>
            match s.blankLine? box.pos with
            | some stop =>
              ({ r.append (.task content.pos box.pos) with emptyItem := some stop }, .inl stop)
            | none =>
              if _h : l.cursor.pos < box.pos ∧ box.pos ≤ s.size then
                openMarkers s r ⟨l.start, box⟩
              else stay
          | none =>
            if _h : l.cursor.pos < content.pos ∧ content.pos ≤ s.size then
              openMarkers s r ⟨l.start, content⟩
            else stay
      | none =>
        match quoteMarker? s c with
        | some content =>
          if _h : l.cursor.pos < content.pos ∧ content.pos ≤ s.size then
            openMarkers s ((r.finishList l.start).openContainer .quote c.pos) ⟨l.start, content⟩
          else stay
        | none => stay
  termination_by s.size - l.cursor.pos
  decreasing_by
    · simp only [Cursor.startOf]
      omega
    all_goals omega

/-! ## Blocks without inline content -/

/-- The end of an indented code block whose last line with content ends at `stop`, and the position of
the next line. `i` is the start of a line's content. -/
def indentedCode (s : Source) (ks : List Container) (i stop : Nat) (blank : Bool) : Nat × Nat × Bool :=
  let next := s.nextLine i
  let stop := if blank then stop else next
  let (inside, c) := enterLine s next ks
  let (missing, c) := c.take s 4
  if !inside || (missing ≠ 0 && !c.atLineEnd s) || s.size ≤ c.pos then (stop, next, blank)
  else if _h : i < c.pos ∧ i < s.size then indentedCode s ks c.pos stop (s.isBlankFrom c.pos)
  else (stop, next, blank)
  termination_by s.size - i

/-- The end of a fenced code block, opened by `n` marks at `indent` columns, and the position after its
line. `i` is the start of a line. -/
def fencedCode (s : Source) (ks : List Container) (n : Nat) (mark : Char) (indent i : Nat) :
    Nat × Nat :=
  let (inside, c) := enterLine s i ks
  if !inside then (i, i)
  else
    let (_, c) := c.take s indent
    let (missing, close) := c.take s 4
    let closed := if missing = 0 then none else closingFence? s close.pos n mark
    match closed with
    | some stop => (stop, (s.blankLine? stop).getD stop)
    | none =>
      let next := s.nextLine c.pos
      if _h : i < next ∧ i < s.size then fencedCode s ks n mark indent next else (next, next)
  termination_by s.size - i

/-- Do the characters of `cs` stand somewhere between `i` and `stop`? -/
def holdsBetween (s : Source) (cs : List Char) (i stop : Nat) : Bool :=
  match afterFirst? s cs i with
  | some j => j ≤ stop
  | none => false

/-- The end of an HTML block that runs to the line with `close`, and the position after its last line.
`i` is the start of a line's content. -/
def delimitedHtml (s : Source) (ks : List Container) (close : List Char) (i : Nat) : Nat × Nat :=
  let next := s.nextLine i
  let (inside, c) := enterLine s next ks
  if !inside || holdsBetween s close i next then (next, next)
  else if s.size ≤ c.pos then (c.pos, next)
  else if _h : i < c.pos ∧ i < s.size then delimitedHtml s ks close c.pos
  else (next, next)
  termination_by s.size - i

/-- The end of an HTML block that runs to a blank line, and the position after its last line. -/
def openHtml (s : Source) (ks : List Container) (i : Nat) : Nat × Nat :=
  let next := s.nextLine i
  let (inside, c) := enterLine s next ks
  if !inside || c.atLineEnd s then (next, next)
  else if s.size ≤ c.pos || s.isBlankFrom c.pos then (c.pos, next)
  else if _h : i < c.pos ∧ i < s.size then openHtml s ks c.pos
  else (next, next)
  termination_by s.size - i

/-- The end of the table whose rows start at `i`. -/
def tableEnd (s : Source) (ks : List Container) (i : Nat) : Nat :=
  let (inside, c) := enterLine s i ks
  let start := (c.takeAll s).pos
  if !inside || endsParagraphText s false start then i
  else
    let stop := s.skipWhile start fun d => d != '\n' && d != '\r'
    let next := stop + (s.lineEnd? stop).getD 0
    if _h : i < next ∧ i < s.size then tableEnd s ks next else i
  termination_by s.size - i
  decreasing_by exact Nat.sub_lt_sub_left _h.2 _h.1

/-! ## Headings and paragraphs -/

/-- A heading whose `#` marks stand at `i`: the block, and the position after its line. Closing marks
after white space do not belong to it. -/
def heading (s : Source) (ks : List Container) (i depth : Nat) : Outline × Nat :=
  let marks := i + depth
  match s.lineEnd? marks with
  | some n => (.heading depth [] i (marks + n), marks + n)
  | none =>
    let start := s.skipWhile marks isInlineBlank
    let text := s.skipWhile start fun c => c != '\n' && c != '\r'
    let stop := text + (s.lineEnd? text).getD 0
    let (tokens, _, _) :=
      cutLine s { containers := ks, start, headOfTable := false, stop } ⟨[], start, false, 0, 0⟩ start
    let limit := stop - s.countBack start (fun c => c == ' ' || c == '\n' || c == '\r') stop
    let closer := limit - s.countBack start (· == '#') limit
    let spaces := s.countBack start (· == ' ') closer
    let limit := if closer = start then start else if spaces > 0 then closer - spaces else limit
    let tokens :=
      match tokens with
      | t :: ts => { t with stop := limit } :: ts
      | [] => []
    (.heading depth tokens.reverse i stop, stop)

/-- A paragraph's text: its tokens, last one first, its end, and what it turned out to be. -/
inductive ParagraphEnd where
  | paragraph (tokens : List Token) (stop : Nat)
  | heading (depth : Nat) (tokens : List Token) (stop : Nat)
  | table (stop : Nat)

/-- Reads the lines of a paragraph that starts at `start`, from the line whose content is at `i` on. -/
def paragraphLines (s : Source) (ks : List Container) (start : Nat) (tokens : List Token) (i : Nat) :
    ParagraphEnd :=
  let (line, next, ending) :=
    cutLine s { containers := ks, start := i, headOfTable := i = start, stop := s.size }
      ⟨[], i, false, 0, 0⟩ i
  let tokens := line ++ tokens
  match ending with
  | .table stop => .table (tableEnd s ks stop)
  | _ =>
    let closed (tokens : List Token) : List Token :=
      match ending with
      | .backslash b => ⟨b, b + 1, .text false⟩ :: tokens
      | _ => tokens
    let (inside, c) := enterLine s next ks
    let (missing, c) := c.take s 4
    let under := if missing ≠ 0 && inside then underline? s c.pos else none
    match under with
    | some (depth, stop) => .heading depth (closed tokens) stop
    | none =>
      if missing ≠ 0 && endsParagraph s ks inside c.pos then .paragraph (closed tokens) next
      else
        let c := c.takeAll s
        if c.atLineEnd s then .paragraph (closed tokens) next
        else
          let token :=
            match ending with
            | .soft b => [⟨b, next, .softBreak⟩]
            | .spaced b | .backslash b => [⟨b, next, .hardBreak⟩]
            | _ => []
          if _h : i < c.pos ∧ i < s.size then paragraphLines s ks start (token ++ tokens) c.pos
          else .paragraph tokens next
  termination_by s.size - i
  decreasing_by exact Nat.sub_lt_sub_left _h.2 _h.1

/-! ## Lines -/

/-- Reads the leaf block whose line is indented up to `c`; gives the position after it. -/
def leaf (s : Source) (r : Reading) (c : Cursor) : Reading × Nat :=
  let ks := r.containers
  let (indent, c) := c.takeUpTo s 4
  let i := c.pos
  let sealedBlock (tag : Tag) (ends : Nat × Nat) : Reading × Nat :=
    (r.append (.sealed tag i ends.1), ends.2)
  if indent = 4 then
    let (stop, next, blank) := indentedCode s ks i i false
    ({ r.append (.sealed .codeBlock i stop) with lastBlank := blank }, next)
  else
    match if s.hasAt i '<' then htmlBlockEnd? s i else none with
    | some close => sealedBlock .htmlBlock (delimitedHtml s ks close i)
    | none =>
      if s.hasAt i '<' && (startsBlockTag s i || isLoneTag s i) then
        sealedBlock .htmlBlock (openHtml s ks i)
      else
        match thematicBreak? s i with
        | some stop => (r.append (.rule i stop), stop)
        | none =>
          match headingDepth? s i with
          | some depth =>
            let (block, next) := heading s ks i depth
            (r.append block, next)
          | none =>
            match definitionAt? s ks i with
            | some (stop, label, url) =>
              ({ r with definitions := (labelKey label, url) :: r.definitions },
                (s.blankLine? stop).getD stop)
            | none =>
              match fence? s i with
              | some (n, mark) =>
                sealedBlock .codeBlock (fencedCode s ks n mark indent (s.nextLine (i + n)))
              | none =>
                match paragraphLines s ks i [] i with
                | .paragraph tokens stop => (r.append (.paragraph tokens.reverse i stop), stop)
                | .heading depth tokens stop =>
                  (r.append (.heading depth tokens.reverse i stop), stop)
                | .table stop => (r.append (.sealed .table i stop), stop)

/-- Reads one block that starts with the line at `start`; gives the position after it. -/
def block (s : Source) (r : Reading) (start : Nat) : Reading × Nat :=
  let ks := r.containers
  let (n, c) := matchPrefixes s (.startOf start) ks
  let r := r.closeMany start (ks.length - n)
  match openMarkers s r ⟨start, c⟩ with
  | (r, .inl next) => (r, next)
  | (r, .inr content) =>
    match s.blankLine? content.cursor.pos with
    | some next =>
      match r.opened with
      | { container := .quote, .. } :: _ => (r, next)
      | { container := .item indent, start, done } :: ks =>
        let indent := if r.emptyItem.isSome then 0 else indent
        ({ r with opened := { container := .item indent, start, done } :: ks, lastBlank := true }, next)
      | _ => ({ r with lastBlank := true }, next)
    | none => leaf s (r.finishList content.start) content.cursor

/-- Reads all blocks from `i` on. -/
def blocks (s : Source) (r : Reading) (i : Nat) : Reading :=
  if _h : i < s.size then
    let (r, next) := block s r i
    if _h : i < next then blocks s r next else r
  else r.closeMany i r.opened.length
  termination_by s.size - i

end Reading

/-- The outline of a source, with the destinations of its link labels and its footnotes. -/
def readOutline (s : Source) : List Outline × Reading :=
  let r := Reading.blocks s {} 0
  (r.done.reverse, r)

end CuratedList.Markdown
