/-! # Patterns

A pattern describes the texts it matches, and which match is preferred where there are several: that of the
first alternative, and more rather than less of an optional or a repeated part.

The matches at a place are listed by what they leave of the text, in the order of preference. A part that
comes after another is tried on each of these in turn, so a choice that leads nowhere is given up for
the next one.
-/

namespace CuratedList.Text
set_option autoImplicit false

/-- What matches at the start of a text. -/
inductive Pattern where
  | char (holds : Char → Bool)
  | seq (first second : Pattern)
  | either (first second : Pattern)
  | optional (body : Pattern)
  | many (body : Pattern)

namespace Pattern

/-- What is left when `step` was taken any number of times. A step that takes no character is not
repeated. -/
def repeated (step : List Char → List (List Char)) (cs : List Char) : List (List Char) :=
  ((step cs).flatMap fun rest => if _h : rest.length < cs.length then repeated step rest else []) ++ [cs]
  termination_by cs.length

/-- What each match leaves of the text, the preferred match first. -/
def rests : Pattern → List Char → List (List Char)
  | char _, [] => []
  | char holds, c :: cs => if holds c then [cs] else []
  | seq first second, cs => (first.rests cs).flatMap second.rests
  | either first second, cs => first.rests cs ++ second.rests cs
  | optional body, cs => body.rests cs ++ [cs]
  | many body, cs => repeated body.rests cs

/-- The number of characters of the preferred match, 0 if there is no match. -/
def matchLength (p : Pattern) (cs : List Char) : Nat :=
  match (p.rests cs).head? with
  | some rest => cs.length - rest.length
  | none => 0

/-- The character of this code point. -/
def code (n : Nat) : Pattern := char fun c => c.toNat == n

@[simp] theorem rests_char_nil (holds : Char → Bool) : (char holds).rests [] = [] := by
  rw [rests]

@[simp] theorem rests_char_cons (holds : Char → Bool) (c : Char) (cs : List Char) :
    (char holds).rests (c :: cs) = if holds c then [cs] else [] := by
  rw [rests]

@[simp] theorem rests_code_nil (n : Nat) : (code n).rests [] = [] := rests_char_nil _

@[simp] theorem rests_code_cons (n : Nat) (c : Char) (cs : List Char) :
    (code n).rests (c :: cs) = if c.toNat == n then [cs] else [] := rests_char_cons ..

@[simp] theorem rests_seq (first second : Pattern) (cs : List Char) :
    (seq first second).rests cs = (first.rests cs).flatMap second.rests := by
  rw [rests]

@[simp] theorem rests_either (first second : Pattern) (cs : List Char) :
    (either first second).rests cs = first.rests cs ++ second.rests cs := by
  rw [rests]

@[simp] theorem rests_optional (body : Pattern) (cs : List Char) :
    (optional body).rests cs = body.rests cs ++ [cs] := by
  rw [rests]

@[simp] theorem rests_many (body : Pattern) (cs : List Char) :
    (many body).rests cs = repeated body.rests cs := by
  rw [rests]

end Pattern

end CuratedList.Text
