import CuratedList.Text.Hidden

/-! # Quoted texts

A text between double quotes in which everything can be seen: quotes and backslashes are escaped, and so
are the characters that do not show.
-/

namespace CuratedList.Text
set_option autoImplicit false

/-- The hexadecimal digits of a number, at least `width` of them. -/
def hexadecimal (width n : Nat) : List Char :=
  let digits := Nat.toDigits 16 n
  List.replicate (width - digits.length) '0' ++ digits

/-- How a character is written between double quotes. -/
def quotedChar (c : Char) : List Char :=
  match c with
  | '\x00' => ['\\', '0']
  | '\t' => ['\\', 't']
  | '\n' => ['\\', 'n']
  | '\r' => ['\\', 'r']
  | '"' => ['\\', '"']
  | '\\' => ['\\', '\\']
  | c =>
    if isHidden c then ['\\', 'u', Char.ofNat 0x7B] ++ hexadecimal 1 c.toNat ++ [Char.ofNat 0x7D]
    else [c]

/-- A text between double quotes. -/
def quoted (text : String) : String :=
  String.ofList ('"' :: text.toList.flatMap quotedChar ++ ['"'])

end CuratedList.Text
