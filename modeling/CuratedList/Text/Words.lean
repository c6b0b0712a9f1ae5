import CuratedList.Text.Blank

/-! # Words

A word is a maximal run of characters that are neither white space nor one of `- ; . / '`.
-/

namespace CuratedList.Text
set_option autoImplicit false

/-- A character that separates words. -/
def isSeparator (c : Char) : Bool := isBlank c || ['-', ';', '.', '/', '\''].contains c

/-- The words of `cs` when the characters of `run`, last one first, precede it. -/
def wordsFrom : (run cs : List Char) → List (List Char)
  | run, [] => if run.isEmpty then [] else [run.reverse]
  | run, c :: cs =>
    if isSeparator c then
      if run.isEmpty then wordsFrom [] cs else run.reverse :: wordsFrom [] cs
    else wordsFrom (c :: run) cs

/-- The words of a text, in order. -/
def words (cs : List Char) : List (List Char) := wordsFrom [] cs

end CuratedList.Text
