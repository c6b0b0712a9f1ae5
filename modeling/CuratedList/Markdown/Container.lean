import CuratedList.Markdown.Indent

/-! # Containers

Blocks that hold blocks. A line belongs to an open container if it starts with the container's prefix:
a `>` for a quote, indentation for an item or a footnote definition. A list has no prefix of its own.
-/

namespace CuratedList.Markdown
set_option autoImplicit false

/-- A container of blocks. -/
inductive Container where
  | quote
  /-- A list and its marker. The list is tight as long as no blank line separates its parts. -/
  | list (tight : Bool) (marker : Char)
  /-- An item and the indentation of its content. -/
  | item (indent : Nat)
  | footnote (label : String)
  deriving DecidableEq, Repr, Inhabited

/-- Reads the marker of a quote: up to three columns, `>`, and a column of white space. -/
def quoteMarker? (s : Source) (c : Cursor) : Option Cursor :=
  let (_, c) := c.take s 3
  if s.hasAt c.pos '>' then some (Cursor.take s { c with pos := c.pos + 1 } 1).2 else none

/-- Reads the prefix of one container. -/
def Container.prefixAt? (s : Source) (c : Cursor) : Container → Option Cursor
  | .quote => quoteMarker? s c
  | .list .. => some c
  | .item indent => indented indent
  | .footnote _ => indented 4
where
  /-- Content indented by `n` columns, or an empty line. -/
  indented (n : Nat) : Option Cursor :=
    let (missing, after) := c.take s n
    if missing = 0 || after.atLineEnd s then some after else none

/-- Reads the prefixes of the containers, outermost first, as far as they stand in the line. Gives the
number of containers that the line belongs to. -/
def matchPrefixes (s : Source) (c : Cursor) : List Container → Nat × Cursor
  | [] => (0, c)
  | k :: ks =>
    match k.prefixAt? s c with
    | none => (0, c)
    | some c =>
      let (n, c) := matchPrefixes s c ks
      (n + 1, c)

/-- The cursor after all prefixes of a line, and whether all were there. -/
def enterLine (s : Source) (i : Nat) (ks : List Container) : Bool × Cursor :=
  let (n, c) := matchPrefixes s (.startOf i) ks
  (n = ks.length, c)

/-- The position after the prefixes of a line. -/
def skipPrefixes (s : Source) (i : Nat) (ks : List Container) : Nat :=
  (matchPrefixes s (.startOf i) ks).2.pos

end CuratedList.Markdown
