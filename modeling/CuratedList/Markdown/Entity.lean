import CuratedList.Markdown.Entity.NamesAC
import CuratedList.Markdown.Entity.NamesDF
import CuratedList.Markdown.Entity.NamesGL
import CuratedList.Markdown.Entity.NamesMQ
import CuratedList.Markdown.Entity.NamesRT
import CuratedList.Markdown.Entity.NamesUZ
import CuratedList.Markdown.Source

/-! # Character references

`&name;`, `&#123;` and `&#x1F;` stand for characters. A number that is no character, or zero, stands for
U+FFFD.
-/

namespace CuratedList.Markdown
set_option autoImplicit false

/-- The characters of a named reference. -/
def entity? (name : String) : Option String :=
  match name.toList.head? with
  | none => none
  | some c =>
    let c := c.toLower
    let names :=
      if c ≤ 'c' then entitiesAC else if c ≤ 'f' then entitiesDF else if c ≤ 'l' then entitiesGL
      else if c ≤ 'q' then entitiesMQ else if c ≤ 't' then entitiesRT else entitiesUZ
    names.lookup name

/-- The value of a hexadecimal digit. -/
def hexValue? (c : Char) : Option Nat :=
  if isAsciiDigit c then some (c.toNat - '0'.toNat)
  else if 'a' ≤ c && c ≤ 'f' then some (c.toNat - 'a'.toNat + 10)
  else if 'A' ≤ c && c ≤ 'F' then some (c.toNat - 'A'.toNat + 10)
  else none

/-- The number that the digits at `i` denote in a base, at most `limit` of them, and how many. -/
def digitsAt (s : Source) (base : Nat) (i : Nat) : (limit : Nat) → (value count : Nat) → Nat × Nat
  | 0, value, count => (value, count)
  | limit + 1, value, count =>
    match s[i]?.bind hexValue? with
    | some d =>
      if d < base then digitsAt s base (i + 1) limit (value * base + d) (count + 1)
      else (value, count)
    | none => (value, count)

/-- The character of a numeric reference. -/
def codeCharacter (n : Nat) : Char := if n = 0 ∨ ¬ n.isValidChar then '\ufffd' else Char.ofNat n

/-- The reference whose ampersand is at `i`: the position after it, and what it stands for. -/
def entityAt? (s : Source) (i : Nat) : Option (Nat × String) :=
  if s.hasAt (i + 1) '#' then
    let hex := s.hasAt (i + 2) 'x' || s.hasAt (i + 2) 'X'
    let start := if hex then i + 3 else i + 2
    let (value, count) := if hex then digitsAt s 16 start 6 0 0 else digitsAt s 10 start 7 0 0
    if count = 0 || !s.hasAt (start + count) ';' then none
    else some (start + count + 1, (codeCharacter value).toString)
  else
    let stop := s.skipWhile (i + 1) isAsciiAlphanumeric
    if s.hasAt stop ';' then (entity? (s.slice (i + 1) stop)).map (stop + 1, ·) else none

end CuratedList.Markdown
