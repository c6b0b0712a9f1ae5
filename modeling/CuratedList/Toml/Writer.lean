import CuratedList.Text.Quoted

/-! # Writing TOML

Texts are written in the plainest kind of quotes that can hold them: a line without escapes, a literal
line, then blocks, and escapes only where nothing else serves. Arrays of several elements have a line for
each.
-/

namespace CuratedList.Toml
set_option autoImplicit false

/-- The kinds of quotes. -/
inductive TextStyle where
  | basic
  | literal
  | basicBlock
  | literalBlock
  deriving DecidableEq, Repr

/-- The length of the longest run of `q`, after a run of `run` and a longest one of `longest`. -/
def longestRun (q : Char) : (run longest : Nat) → List Char → Nat
  | _, longest, [] => longest
  | run, longest, c :: cs =>
    if c = q then longestRun q (run + 1) (max longest (run + 1)) cs else longestRun q 0 longest cs

/-- A control character that no kind of quotes holds as it is. -/
def needsEscape (c : Char) : Bool :=
  (c.toNat < 0x20 && c != '\t' && c != '\n') || c.toNat == 0x7F

/-- The kind of quotes for a text. -/
def TextStyle.ofText (cs : List Char) : TextStyle :=
  let escapes := cs.any needsEscape
  let backslash := cs.contains '\\'
  let lines := cs.contains '\n'
  let doubles := longestRun '"' 0 0 cs
  let singles := longestRun '\'' 0 0 cs
  if !escapes && !backslash && !lines && doubles = 0 then .basic
  else if !escapes && !lines && singles = 0 then .literal
  else if !escapes && !backslash && doubles ≤ 2 then .basicBlock
  else if !escapes && singles ≤ 2 then .literalBlock
  else if lines then .basicBlock
  else .basic

/-- How a character other than a double quote is written between double quotes. -/
def escapedChar (block : Bool) (c : Char) : List Char :=
  match c with
  | '\x08' => ['\\', 'b']
  | '\t' => ['\\', 't']
  | '\n' => if block then ['\n'] else ['\\', 'n']
  | '\x0c' => ['\\', 'f']
  | '\r' => ['\\', 'r']
  | '\\' => ['\\', '\\']
  | c =>
    if c.toNat < 0x20 || c.toNat = 0x7F then
      '\\' :: 'u' :: (Text.hexadecimal 4 c.toNat).map Char.toUpper
    else [c]

/-- A text as it is written between double quotes, after `run` double quotes. Two in a row may stand in a
block, and none on a line. -/
def escaped (block : Bool) : (run : Nat) → List Char → List Char
  | _, [] => []
  | run, c :: cs =>
    if c = '"' then
      if block && run < 2 then '"' :: escaped block (run + 1) cs
      else '\\' :: '"' :: escaped block 0 cs
    else escapedChar block c ++ escaped block 0 cs

/-- A text in quotes. The content of a block with several lines starts on a line of its own. -/
def writtenText (cs : List Char) : List Char :=
  let start := if cs.contains '\n' then ['\n'] else []
  match TextStyle.ofText cs with
  | .basic => '"' :: escaped false 0 cs ++ ['"']
  | .literal => '\'' :: cs ++ ['\'']
  | .basicBlock => ['"', '"', '"'] ++ start ++ escaped true 0 cs ++ ['"', '"', '"']
  | .literalBlock => ['\'', '\'', '\''] ++ start ++ cs ++ ['\'', '\'', '\'']

/-- An array of texts. -/
def writtenTexts : List (List Char) → List Char
  | [] => ['[', ']']
  | [text] => '[' :: writtenText text ++ [']']
  | texts => ['[', '\n'] ++ texts.flatMap (fun t => "    ".toList ++ writtenText t ++ [',', '\n']) ++ [']']

/-- A line that gives a value to a key. -/
def writtenLine (key : String) (value : List Char) : List Char :=
  key.toList ++ " = ".toList ++ value ++ ['\n']

end CuratedList.Toml
