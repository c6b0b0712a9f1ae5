import CuratedList.Markdown.Source
import CuratedList.Text.Blank
import CuratedList.Text.CaseFold

/-! # Link labels

A label stands between brackets, holds no other brackets unless escaped, and is at most about a
thousand characters long. Labels are compared after case folding, with every run of white space taken as
one space and none at the ends.
-/

namespace CuratedList.Markdown
set_option autoImplicit false

/-- The limit on the characters of a label that are counted: escapes, white space and the bytes of
characters outside ASCII. -/
def labelLimit : Nat := 1000

/-- A white-space run in a label: the position after it, if it has at most one line end and `lineBreak`
allows that one. It gives the position where the next line's content starts. -/
def labelBlanks? (s : Source) (lineBreak : Nat → Option Nat) (i : Nat) (broken : Bool) : Option Nat :=
  if h : i < s.size then
    if isAsciiBlank s[i] then
      match s.lineEnd? i with
      | none => labelBlanks? s lineBreak (i + 1) broken
      | some n =>
        if broken then none
        else
          match lineBreak (i + n) with
          | none => none
          | some j => labelBlanks? s lineBreak (max (i + 1) j) true
    else some i
  else some i
  termination_by s.size - i

/-- Scans a label from `i` on: the position after its closing bracket, and its text. -/
def scanLabel? (s : Source) (lineBreak : Nat → Option Nat) (i counted : Nat) (label : List Char) :
    Option (Nat × String) :=
  if h : i < s.size then
    if labelLimit ≤ counted then none
    else if s[i] = '[' then none
    else if s[i] = ']' then
      let text := Text.trim label.reverse
      if text.isEmpty then none else some (i + 1, String.ofList text)
    else if s[i] = '\\' then
      match s[i + 1]? with
      | some c => scanLabel? s lineBreak (i + 2) (counted + 2) (c :: '\\' :: label)
      | none => none
    else if isAsciiBlank s[i] then
      match labelBlanks? s lineBreak i false with
      | none => none
      | some j =>
        if _h : i < j then scanLabel? s lineBreak j (counted + (j - i)) (' ' :: label) else none
    else
      let weight := if s[i].toNat < 128 then 0 else s[i].utf8Size
      scanLabel? s lineBreak (i + 1) (counted + weight) (s[i] :: label)
  else none
  termination_by s.size - i

/-- The label that starts at `i`, right after its opening bracket. -/
def labelAt? (s : Source) (lineBreak : Nat → Option Nat) (i : Nat) : Option (Nat × String) :=
  scanLabel? s lineBreak i 0 []

/-- The form in which labels are compared. -/
def labelKey (label : String) : List Char := Text.foldCase label.toList

end CuratedList.Markdown
