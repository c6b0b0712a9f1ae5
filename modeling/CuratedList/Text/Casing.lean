import CuratedList.Text.Letters

/-! # Casing of a word

A word is classified by its letters alone: which of them are capital, and whether an underscore
joins parts. Digits and symbols do not count, and letters without case belong to no style.
-/

namespace CuratedList.Text
set_option autoImplicit false

/-- The casing style of one word. -/
inductive CaseStyle where
  /-- `iPhone` -/
  | camel
  /-- `GitHub` -/
  | pascal
  /-- `HTTP` -/
  | upper
  /-- `MAX_SIZE` -/
  | constant
  /-- `Hello` -/
  | capital
  /-- `hello` -/
  | lower
  /-- `snake_case` -/
  | snake
  /-- Any other word, among them those without letters. -/
  | other
  deriving DecidableEq, Repr, Inhabited

namespace CaseStyle

/-- The written name of a style. -/
def name : CaseStyle → String
  | camel => "camel"
  | pascal => "pascal"
  | upper => "upper"
  | constant => "constant"
  | capital => "capital"
  | lower => "lower"
  | snake => "snake"
  | other => "other"

/-- All styles. -/
def all : List CaseStyle := [camel, pascal, upper, constant, capital, lower, snake, other]

/-- The style with a written name. -/
def ofName? (s : String) : Option CaseStyle := all.find? (·.name = s)

/-- The style of a word. -/
def ofWord (word : List Char) : CaseStyle :=
  match word.filter isAlphabetic with
  | [] => other
  | first :: rest =>
    let letters := first :: rest
    let joined := word.contains '_'
    match letters.any isUppercase, letters.any isLowercase with
    | false, true => if joined then snake else lower
    | true, false => if joined then constant else upper
    | true, true =>
      if joined then other
      else if isUppercase first then (if rest.any isUppercase then pascal else capital)
      else camel
    | false, false => other

end CaseStyle
end CuratedList.Text
