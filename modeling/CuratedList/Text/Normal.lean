import CuratedList.Text.Normal.CombiningClass
import CuratedList.Text.Normal.Composition
import CuratedList.Text.Normal.DecompositionHigh
import CuratedList.Text.Normal.DecompositionLow

/-! # Canonical normal form

The composed normal form: characters are decomposed, marks are put in the order of their combining
classes, and what composes is composed again.
-/

namespace CuratedList.Text
set_option autoImplicit false

/-- The canonical combining class of a code point. -/
def combiningClass (n : Nat) : Nat :=
  match combiningClasses.find? fun (first, last, _) => first ≤ n && n ≤ last with
  | some (_, _, k) => k
  | none => 0

/-- The first code points of the syllables, initial, medial and final letters of Hangul. -/
def hangulSyllable : Nat := 0xAC00

/-- The first initial letter. -/
def hangulInitial : Nat := 0x1100

/-- The first medial letter. -/
def hangulMedial : Nat := 0x1161

/-- The code point before the first final letter. -/
def hangulFinal : Nat := 0x11A7

/-- The canonical decomposition of a code point. -/
def decompose (n : Nat) : List Nat :=
  if hangulSyllable ≤ n ∧ n < hangulSyllable + 11172 then
    let i := n - hangulSyllable
    let letters := [hangulInitial + i / 588, hangulMedial + i % 588 / 28]
    if i % 28 = 0 then letters else letters ++ [hangulFinal + i % 28]
  else ((decompositionsLow.lookup n).or (decompositionsHigh.lookup n)).getD [n]

/-- The code point that two code points compose to. -/
def compose? (a b : Nat) : Option Nat :=
  if hangulInitial ≤ a ∧ a < hangulInitial + 19 ∧ hangulMedial ≤ b ∧ b < hangulMedial + 21 then
    some (hangulSyllable + ((a - hangulInitial) * 21 + (b - hangulMedial)) * 28)
  else if hangulSyllable ≤ a ∧ a < hangulSyllable + 11172 ∧ (a - hangulSyllable) % 28 = 0 ∧
      hangulFinal < b ∧ b < hangulFinal + 28 then
    some (a + (b - hangulFinal))
  else (compositions.find? fun (x, y, _) => x == a && y == b).map fun (_, _, z) => z

/-- Puts a mark of class `k` behind the marks of at most that class; the list is in order. -/
def insertMark (n k : Nat) : List (Nat × Nat) → List (Nat × Nat)
  | [] => [(n, k)]
  | (m, j) :: rest => if j ≤ k then (m, j) :: insertMark n k rest else (n, k) :: (m, j) :: rest

/-- Code points with their classes, each run of marks in canonical order; `marks` is the run before. -/
def orderMarks : (marks : List (Nat × Nat)) → List Nat → List (Nat × Nat)
  | marks, [] => marks
  | marks, n :: ns =>
    match combiningClass n with
    | 0 => marks ++ (n, 0) :: orderMarks [] ns
    | k + 1 => orderMarks (insertMark n (k + 1) marks) ns

/-- Composes code points in canonical order. `base` is the last one of class zero, and `marks`, last one
first, follow it. -/
def composeFrom : (base : Option Nat) → (marks : List (Nat × Nat)) → List (Nat × Nat) → List Nat
  | base, marks, [] => base.toList ++ (marks.map Prod.fst).reverse
  | base, marks, (n, k) :: rest =>
    let blocked := match marks with
      | [] => false
      | (_, j) :: _ => k ≤ j
    match if blocked then none else base.bind (compose? · n) with
    | some c => composeFrom (some c) marks rest
    | none =>
      if k = 0 then base.toList ++ (marks.map Prod.fst).reverse ++ composeFrom (some n) [] rest
      else composeFrom base ((n, k) :: marks) rest

/-- The composed normal form of a text. -/
def normalize (cs : List Char) : List Char :=
  let ordered := orderMarks [] (cs.flatMap fun c => decompose c.toNat)
  (composeFrom none [] ordered).map Char.ofNat

end CuratedList.Text
