/-! # Blank characters

The characters with the Unicode property `White_Space`, and trimming by them. Texts are handled as
lists of characters; `String` appears at the edges.
-/

namespace CuratedList.Text
set_option autoImplicit false

/-- Inclusive ranges of code points, in increasing order. -/
abbrev Ranges := List (Nat × Nat)

/-- Is the code point of `c` in one of the ranges? -/
def Ranges.holds (r : Ranges) (c : Char) : Bool := r.any fun p => p.1 ≤ c.toNat && c.toNat ≤ p.2

theorem Ranges.holds_iff (r : Ranges) (c : Char) :
    r.holds c = true ↔ ∃ p ∈ r, p.1 ≤ c.toNat ∧ c.toNat ≤ p.2 := by
  simp [Ranges.holds]

theorem Ranges.holds_eq_false {r s : Ranges} (apart : ∀ p ∈ r, ∀ q ∈ s, p.2 < q.1 ∨ q.2 < p.1)
    {c : Char} (inside : r.holds c = true) : s.holds c = false := by
  obtain ⟨p, hp, low, high⟩ := (r.holds_iff c).1 inside
  rw [Bool.eq_false_iff]
  intro other
  obtain ⟨q, hq, low', high'⟩ := (s.holds_iff c).1 other
  have := apart p hp q hq
  omega

/-- The property `White_Space`. -/
def blankRanges : Ranges :=
  [(0x09, 0x0D), (0x20, 0x20), (0x85, 0x85), (0xA0, 0xA0), (0x1680, 0x1680), (0x2000, 0x200A),
    (0x2028, 0x2029), (0x202F, 0x202F), (0x205F, 0x205F), (0x3000, 0x3000)]

/-- A white-space character. -/
def isBlank (c : Char) : Bool := blankRanges.holds c

/-! ## Trimming -/

/-- Drops the longest end whose characters all satisfy `p`. -/
def dropWhileEnd (p : Char → Bool) (cs : List Char) : List Char :=
  (cs.reverse.dropWhile p).reverse

/-- The characters of the longest end that all satisfy `p`. -/
def takeWhileEnd (p : Char → Bool) (cs : List Char) : List Char :=
  (cs.reverse.takeWhile p).reverse

theorem dropWhileEnd_append_takeWhileEnd (p : Char → Bool) (cs : List Char) :
    dropWhileEnd p cs ++ takeWhileEnd p cs = cs := by
  simp only [dropWhileEnd, takeWhileEnd, ← List.reverse_append, List.takeWhile_append_dropWhile,
    List.reverse_reverse]

theorem dropWhileEnd_append {p : Char → Bool} (cs : List Char) {back : List Char}
    (all : ∀ c ∈ back, p c = true) : dropWhileEnd p (cs ++ back) = dropWhileEnd p cs := by
  have backwards : ∀ c ∈ back.reverse, p c = true := fun c member => all c (List.mem_reverse.1 member)
  rw [dropWhileEnd, List.reverse_append, List.dropWhile_append_of_pos backwards, dropWhileEnd]

theorem dropWhileEnd_of_getLast? {p : Char → Bool} {cs : List Char}
    (kept : ∀ c ∈ cs.getLast?, p c = false) : dropWhileEnd p cs = cs := by
  rw [← List.head?_reverse] at kept
  unfold dropWhileEnd
  cases backwards : cs.reverse with
  | nil => rw [List.dropWhile_nil, ← backwards, List.reverse_reverse]
  | cons c rest =>
    have last : p c = false := kept c (by rw [backwards, List.head?_cons, Option.mem_def])
    rw [List.dropWhile_cons_of_neg (by simp [last]), ← backwards, List.reverse_reverse]

theorem forall_mem_takeWhileEnd (p : Char → Bool) (cs : List Char) :
    ∀ c ∈ takeWhileEnd p cs, p c = true := by
  intro c member
  exact List.all_eq_true.1 List.all_takeWhile c (List.mem_reverse.1 member)

theorem forall_getLast?_dropWhileEnd (p : Char → Bool) (cs : List Char) :
    ∀ c ∈ (dropWhileEnd p cs).getLast?, p c = false := by
  intro c last
  have stopped := List.head?_dropWhile_not p cs.reverse
  rw [dropWhileEnd, List.getLast?_reverse] at last
  rw [Option.mem_def.1 last] at stopped
  exact stopped

/-- Without leading white space. -/
def trimStart (cs : List Char) : List Char := cs.dropWhile isBlank

/-- Without trailing white space. -/
def trimEnd (cs : List Char) : List Char := dropWhileEnd isBlank cs

/-- Without white space at either end. -/
def trim (cs : List Char) : List Char := trimEnd (trimStart cs)

/-- No character but white space. -/
def allBlank (cs : List Char) : Bool := cs.all isBlank

/-- `cs` without the leading `pre`, if it starts with it. -/
def dropPrefix? : (pre cs : List Char) → Option (List Char)
  | [], cs => some cs
  | _ :: _, [] => none
  | p :: ps, c :: cs => if p = c then dropPrefix? ps cs else none

theorem dropPrefix?_eq_some_iff {pre cs rest : List Char} :
    dropPrefix? pre cs = some rest ↔ cs = pre ++ rest := by
  induction pre generalizing cs with
  | nil => simp [dropPrefix?, eq_comm]
  | cons p ps ih =>
    cases cs with
    | nil => simp [dropPrefix?]
    | cons c cs =>
      by_cases h : p = c
      · simp [dropPrefix?, h, ih]
      · simp [dropPrefix?, h, Ne.symm h]

end CuratedList.Text
