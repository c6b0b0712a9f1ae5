/-! # Punycode

Reads the ASCII form of a label: the ASCII characters, a hyphen, and the other characters coded as
variable-length numbers. Each number says how far the next insertion lies from the one before, counted
over code points and positions together.
-/

namespace CuratedList.Url.Punycode
set_option autoImplicit false

/-- The value of a digit: letters count from 0, digits from 26. -/
def digitValue? (c : Char) : Option Nat :=
  if 'a' ≤ c && c ≤ 'z' then some (c.toNat - 'a'.toNat)
  else if 'A' ≤ c && c ≤ 'Z' then some (c.toNat - 'A'.toNat)
  else if '0' ≤ c && c ≤ '9' then some (c.toNat - '0'.toNat + 26)
  else none

/-- The digit from which on the digit at place `k` is not the last of its number. -/
def threshold (k bias : Nat) : Nat := if k ≤ bias then 1 else if bias + 26 ≤ k then 26 else k - bias

/-- Divides by 35 down to at most 455, counting 36 for each step. -/
def scale (delta k : Nat) : Nat × Nat :=
  if 455 < delta then scale (delta / 35) (k + 36) else (delta, k)
  termination_by delta
  decreasing_by exact Nat.div_lt_self (by omega) (by omega)

/-- The bias after a number `delta`, when there are `count` characters. -/
def adapt (delta count : Nat) (first : Bool) : Nat :=
  let halved := if first then delta / 700 else delta / 2
  let (delta, k) := scale (halved + halved / count) 0
  k + 36 * delta / (delta + 38)

/-- The number at the start of `cs`, added to `value`, and the characters after it. -/
def number? (bias : Nat) : (value weight k : Nat) → List Char → Option (Nat × List Char)
  | _, _, _, [] => none
  | value, weight, k, c :: cs =>
    match digitValue? c with
    | none => none
    | some d =>
      let value := value + d * weight
      let t := threshold k bias
      if d < t then some (value, cs) else number? bias value (weight * (36 - t)) (k + 36) cs

theorem length_of_number? {bias value weight k n : Nat} {cs rest : List Char}
    (h : number? bias value weight k cs = some (n, rest)) : rest.length < cs.length := by
  induction cs generalizing value weight k with
  | nil => simp [number?] at h
  | cons c cs ih =>
    simp only [number?] at h
    split at h
    · simp at h
    · split at h
      · simp only [Option.some.injEq, Prod.mk.injEq] at h
        simp [h.2]
      · have := ih h
        simp only [List.length_cons]
        omega

/-- Inserts the coded characters into `done`, from code point `n` and position `i` on. -/
def insertAll? (n i bias : Nat) (done : List Char) (cs : List Char) : Option (List Char) :=
  if cs = [] then some done
  else
    match _h : number? bias i 1 36 cs with
    | none => none
    | some (j, rest) =>
      let count := done.length + 1
      let n := n + j / count
      let place := j % count
      if n.isValidChar then
        insertAll? n (place + 1) (adapt (j - i) count (i = 0 && done.all fun c => c.toNat < 128))
          (done.take place ++ Char.ofNat n :: done.drop place) rest
      else none
  termination_by cs.length
  decreasing_by exact length_of_number? _h

/-- The characters before the last hyphen, and those after it. -/
def splitAtHyphen (cs : List Char) : List Char × List Char :=
  if cs.contains '-' then
    let tail := (cs.reverse.takeWhile (· != '-')).reverse
    (cs.take (cs.length - tail.length - 1), tail)
  else ([], cs)

/-- The label that a text codes. -/
def decode? (cs : List Char) : Option (List Char) :=
  let (basic, coded) := splitAtHyphen cs
  insertAll? 128 0 72 basic coded

end CuratedList.Url.Punycode
