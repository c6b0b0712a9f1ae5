import CuratedList.Markdown.Source

/-! # Indentation

A cursor moves over the start of a line and counts columns: a tab reaches to the next multiple of four,
and a part of a tab may be left over for the next construct.
-/

namespace CuratedList.Markdown
set_option autoImplicit false

/-- A place in the indentation of a line. -/
structure Cursor where
  pos : Nat
  /-- The position from which tab stops are counted. -/
  origin : Nat
  /-- Columns of the last tab that are not used yet. -/
  spare : Nat := 0
  deriving Repr

namespace Cursor

/-- The cursor at the start of a line. -/
def startOf (i : Nat) : Cursor := ⟨i, i, 0⟩

/-- Takes up to `n` columns of spaces and tabs; gives the number of columns that were missing. -/
def takeFrom (s : Source) (c : Cursor) (n : Nat) : Nat × Cursor :=
  if _h : n = 0 then (0, c)
  else
    match s[c.pos]? with
    | some ' ' => takeFrom s ⟨c.pos + 1, c.origin, c.spare⟩ (n - 1)
    | some '\t' =>
      let width := 4 - (c.pos - c.origin) % 4
      let used := min width n
      takeFrom s ⟨c.pos + 1, c.pos + 1, width - used⟩ (n - used)
    | _ => (n, c)
  termination_by n

/-- Takes up to `n` columns, those of a tab begun before first; gives the number missing. -/
def take (s : Source) (c : Cursor) (n : Nat) : Nat × Cursor :=
  let used := min c.spare n
  takeFrom s ⟨c.pos, c.origin, c.spare - used⟩ (n - used)

/-- Takes up to `n` columns; gives the number taken. -/
def takeUpTo (s : Source) (c : Cursor) (n : Nat) : Nat × Cursor :=
  let (missing, c) := c.take s n
  (n - missing, c)

/-- Takes all spaces and tabs. -/
def takeAll (s : Source) (c : Cursor) : Cursor :=
  ⟨s.skipWhile c.pos fun d => d == ' ' || d == '\t', c.origin, 0⟩

/-- The line, or the source, ends here. -/
def atLineEnd (s : Source) (c : Cursor) : Bool :=
  match s[c.pos]? with
  | none => true
  | some d => d == '\n' || d == '\r'

end Cursor
end CuratedList.Markdown
