import CuratedList.Markdown.Destination
import CuratedList.Markdown.Leaf

/-! # Link reference definitions

`[label]: destination "title"` gives a label a destination. Its parts may stand on separate lines, as
long as those lines could continue a paragraph.
-/

namespace CuratedList.Markdown
set_option autoImplicit false

/-- The content of a line inside a definition's label or title, unless the line ends a paragraph. -/
def continuation? (s : Source) (ks : List Container) (i : Nat) : Option Nat :=
  let (inside, c) := enterLine s i ks
  if endsParagraph s ks inside c.pos || (inside && (underline? s c.pos).isSome) then none
  else some c.pos

/-- The content of a line between the parts of a definition, unless the line ends a paragraph. -/
def gapContinuation? (s : Source) (ks : List Container) (i : Nat) : Option Nat :=
  let (inside, c) := enterLine s i ks
  let (missing, c) := c.take s 4
  if missing ≠ 0 && (endsParagraph s ks inside c.pos || (underline? s c.pos).isSome) then none
  else some c.pos

/-- White space with at most one line end: the position after it, and the number of line ends. -/
def definitionGap? (s : Source) (ks : List Container) (i : Nat) : Option (Nat × Nat) :=
  let i := s.skipWhile i isInlineBlank
  match s.lineEnd? i with
  | none => some (i, 0)
  | some n =>
    match gapContinuation? s ks (i + n) with
    | none => none
    | some j =>
      let j := s.skipWhile j isInlineBlank
      match s.lineEnd? j with
      | none => some (j, 1)
      | some _ => none

/-- The position after the title whose content starts at `i`, where each further line has to continue
the definition. -/
def definitionTitle? (s : Source) (ks : List Container) (close : Char) (i : Nat) : Option Nat :=
  if h : i < s.size then
    let c := s[i]
    if c = close then some (i + 1)
    else if c = '\\' then definitionTitle? s ks close (i + 2)
    else
      match s.lineEnd? i with
      | none => definitionTitle? s ks close (i + 1)
      | some n =>
        match continuation? s ks (i + n) with
        | none => none
        | some j => definitionTitle? s ks close (max (i + 1) j)
  else none
  termination_by s.size - i

/-- The title at `i` with the rest of its line blank: the position after the line. -/
def titledLine? (s : Source) (ks : List Container) (i : Nat) : Option Nat := do
  let c ← s[i]?
  let close ← titleClose? c
  let j ← definitionTitle? s ks close (i + 1)
  s.blankLine? j

/-- The definition at `i`: the position after it, its label and its destination. A title that does not
end its line is no title; the definition then ends before it, if a line end does. -/
def definitionAt? (s : Source) (ks : List Container) (i : Nat) : Option (Nat × String × String) := do
  if !s.hasAt i '[' then none
  else
    let (j, label) ← labelAt? s (continuation? s ks) (i + 1)
    if !s.hasAt j ':' then none
    else
      let (start, _) ← definitionGap? s ks (j + 1)
      let (stop, url) ← destinationAt? s start
      if stop = start then none
      else
        match definitionGap? s ks stop with
        | none => some (stop, label, url)
        | some (next, lines) =>
          if next = stop && lines = 0 then none
          else
            match titledLine? s ks next with
            | some after => some (after, label, url)
            | none => if lines = 0 then none else some (stop, label, url)

end CuratedList.Markdown
