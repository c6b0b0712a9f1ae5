import CuratedList.Markdown.Entity
import CuratedList.Markdown.Punctuation

/-! # Destinations, titles and autolinks

Where a link leads. Only the extent of a title matters here; its text is not kept.
-/

namespace CuratedList.Markdown
set_option autoImplicit false

/-! ## Escapes -/

/-- The text between `i` and `stop` with escapes and character references replaced, and carriage
returns dropped; `done` is what precedes it, last character first. -/
def unescapeFrom (s : Source) (stop i : Nat) (done : List Char) : List Char :=
  if _h : i < stop then
    match s[i]? with
    | none => done
    | some '\\' =>
      if i + 1 < stop && (s[i + 1]?.any isAsciiPunctuation) then
        unescapeFrom s stop (i + 2) ((s[i + 1]?.getD '\\') :: done)
      else unescapeFrom s stop (i + 1) ('\\' :: done)
    | some '&' =>
      match entityAt? s i with
      | some (j, value) =>
        if _hj : i < j ∧ j ≤ stop then unescapeFrom s stop j (value.toList.reverse ++ done)
        else unescapeFrom s stop (i + 1) ('&' :: done)
      | none => unescapeFrom s stop (i + 1) ('&' :: done)
    | some '\r' => unescapeFrom s stop (i + 1) done
    | some c => unescapeFrom s stop (i + 1) (c :: done)
  else done
  termination_by stop - i

/-- The text between `i` and `stop` without its escapes and character references. -/
def unescape (s : Source) (i stop : Nat) : String :=
  String.ofList (unescapeFrom s stop i []).reverse

/-! ## Link destinations -/

/-- How deep parentheses may nest in a destination. -/
def maxParens : Nat := 32

/-- The end of a destination in angle brackets: the position of the `>`. -/
def angledEnd? (s : Source) (i : Nat) : Option Nat :=
  if h : i < s.size then
    match s[i] with
    | '\n' | '\r' | '<' => none
    | '>' => some i
    | '\\' =>
      if s[i + 1]?.any isAsciiPunctuation then angledEnd? s (i + 2) else angledEnd? s (i + 1)
    | _ => angledEnd? s (i + 1)
  else none
  termination_by s.size - i

/-- The end of a bare destination, where `depth` parentheses are open. -/
def bareEnd? (s : Source) (i depth : Nat) : Option Nat :=
  if h : i < s.size then
    let c := s[i]
    if c.toNat ≤ 0x20 then if depth = 0 then some i else none
    else if c = '(' then if depth > maxParens then none else bareEnd? s (i + 1) (depth + 1)
    else if c = ')' then if depth = 0 then some i else bareEnd? s (i + 1) (depth - 1)
    else if c = '\\' && (s[i + 1]?.any isAsciiPunctuation) then bareEnd? s (i + 2) depth
    else bareEnd? s (i + 1) depth
  else if depth = 0 then some i else none
  termination_by s.size - i

/-- The destination at `i`: the position after it, and its text. -/
def destinationAt? (s : Source) (i : Nat) : Option (Nat × String) :=
  if s.hasAt i '<' then (angledEnd? s (i + 1)).map fun j => (j + 1, unescape s (i + 1) j)
  else (bareEnd? s i 0).map fun j => (j, unescape s i j)

/-! ## Titles -/

/-- The closing mark of a title that opens with `c`. -/
def titleClose? : Char → Option Char
  | '"' => some '"'
  | '\'' => some '\''
  | '(' => some ')'
  | _ => none

/-- The position after a title whose content starts at `i`. A title in parentheses holds no opening
parenthesis. -/
def titleEnd? (s : Source) (close : Char) (i : Nat) : Option Nat :=
  if h : i < s.size then
    let c := s[i]
    if c = close then some (i + 1)
    else if close = ')' ∧ c = '(' then none
    else if c = '\\' && (s[i + 1]?.any isAsciiPunctuation) then titleEnd? s close (i + 2)
    else titleEnd? s close (i + 1)
  else none
  termination_by s.size - i

/-- The position after the title at `i`. -/
def titleAt? (s : Source) (i : Nat) : Option Nat :=
  s[i]?.bind fun c => (titleClose? c).bind fun close => titleEnd? s close (i + 1)

/-! ## Autolinks -/

/-- A character of a scheme. -/
def isSchemeChar (c : Char) : Bool := isAsciiAlphanumeric c || c == '.' || c == '-' || c == '+'

/-- The absolute address at `i`, up to a `>`: the position of the `>`. -/
def addressEnd? (s : Source) (i : Nat) : Option Nat :=
  let colon := s.skipWhile i isSchemeChar
  if !(s[i]?.any isAsciiLetter) || !s.hasAt colon ':' || colon - i < 2 || colon - i > 32 then none
  else
    let stop := s.skipWhile (colon + 1) fun c => c.toNat > 0x20 && c != '<' && c != '>'
    if s.hasAt stop '>' then some stop else none

/-- A character of the part of an e-mail address before its `@`. -/
def isMailboxChar (c : Char) : Bool :=
  isAsciiAlphanumeric c || ".!#$%&'*+/=?^_`\x7b|\x7d~-".toList.contains c

/-- The end of the domain labels from `i` on, joined by periods. -/
def domainEnd? (s : Source) (i : Nat) : Option Nat :=
  let j := s.skipWhile i fun c => isAsciiAlphanumeric c || c == '-'
  if j = i || j - i > 63 || s.hasAt i '-' || s.hasAt (j - 1) '-' then none
  else if s.hasAt j '.' then if _h : i < j ∧ j < s.size then domainEnd? s (j + 1) else none
  else some j
  termination_by s.size - i

/-- The e-mail address at `i`, up to a `>`: the position of the `>`. -/
def mailEnd? (s : Source) (i : Nat) : Option Nat :=
  let j := s.skipWhile i isMailboxChar
  if j = i || !s.hasAt j '@' then none
  else (domainEnd? s (j + 1)).bind fun k => if s.hasAt k '>' then some k else none

/-- The autolink whose content starts at `i`: the position of its `>`. -/
def autolinkEnd? (s : Source) (i : Nat) : Option Nat := (addressEnd? s i).or (mailEnd? s i)

end CuratedList.Markdown
