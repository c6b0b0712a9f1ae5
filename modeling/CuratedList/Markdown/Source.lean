/-! # Sources

A source is an array of characters, scanned by position. A line ends at a line feed, a carriage return,
or both in that order; the end of the source also counts as a line end.
-/

namespace CuratedList.Markdown
set_option autoImplicit false

/-- The characters of a source. -/
abbrev Source := Array Char

/-! ## Character classes of ASCII -/

/-- White space inside a line. -/
def isInlineBlank (c : Char) : Bool := c == ' ' || c == '\t' || c == '\x0b' || c == '\x0c'

/-- White space or a line end. -/
def isAsciiBlank (c : Char) : Bool := isInlineBlank c || c == '\n' || c == '\r'

/-- A letter of ASCII. -/
def isAsciiLetter (c : Char) : Bool := ('a' ≤ c && c ≤ 'z') || ('A' ≤ c && c ≤ 'Z')

/-- A digit of ASCII. -/
def isAsciiDigit (c : Char) : Bool := '0' ≤ c && c ≤ '9'

/-- A letter or digit of ASCII. -/
def isAsciiAlphanumeric (c : Char) : Bool := isAsciiLetter c || isAsciiDigit c

namespace Source

/-- The characters from `a` up to `b`. -/
def slice (s : Source) (a b : Nat) : String := String.ofList (s.extract a b).toList

/-- Is `c` the character at `i`? -/
def hasAt (s : Source) (i : Nat) (c : Char) : Bool := s[i]? == some c

/-- Do the characters of `cs` stand at `i`? -/
def hasListAt (s : Source) (i : Nat) : (cs : List Char) → Bool
  | [] => true
  | c :: cs => s.hasAt i c && hasListAt s (i + 1) cs

/-- The first position from `i` on that does not satisfy `p`, at most the end. -/
def skipWhile (s : Source) (i : Nat) (p : Char → Bool) : Nat :=
  if h : i < s.size then if p s[i] then skipWhile s (i + 1) p else i else i
  termination_by s.size - i

/-- The first position from `i` on where `c` stands, if any. -/
def find? (s : Source) (i : Nat) (c : Char) : Option Nat :=
  let j := s.skipWhile i (· != c)
  if j < s.size then some j else none

/-- The number of characters `c` from `i` on. -/
def runLength (s : Source) (i : Nat) (c : Char) : Nat := s.skipWhile i (· == c) - i

/-- The number of characters right before `i`, down to `low`, that satisfy `p`. -/
def countBack (s : Source) (low : Nat) (p : Char → Bool) : (i : Nat) → Nat
  | 0 => 0
  | i + 1 => if low ≤ i && (s[i]?.any p) then countBack s low p i + 1 else 0

/-- The length of the line end at `i`; 0 at the end of the source. -/
def lineEnd? (s : Source) (i : Nat) : Option Nat :=
  match s[i]? with
  | none => some 0
  | some '\n' => some 1
  | some '\r' => some (if s.hasAt (i + 1) '\n' then 2 else 1)
  | some _ => none

/-- The position after the line end, if only white space precedes it from `i` on. -/
def blankLine? (s : Source) (i : Nat) : Option Nat :=
  let j := s.skipWhile i isInlineBlank
  (s.lineEnd? j).map (j + ·)

/-- Does the line have nothing but white space from `i` on? -/
def isBlankFrom (s : Source) (i : Nat) : Bool := (s.blankLine? i).isSome

/-- The position after the next line feed. -/
def nextLine (s : Source) (i : Nat) : Nat :=
  match s.find? i '\n' with
  | some j => j + 1
  | none => max i s.size

/-- The source up to position `n`. -/
def upTo (s : Source) (n : Nat) : Source := s.extract 0 n

/-! ## Byte offsets -/

/-- The byte offset of each position, the end included. -/
def offsets (s : Source) : Array Nat :=
  s.foldl (fun acc c => acc.push (acc.back?.getD 0 + c.utf8Size)) #[0]

end Source
end CuratedList.Markdown
