import CuratedList.Text.Bytes

/-! # Lines and columns

Positions count lines from one by line feeds and columns from one by characters. The lines of a source are
indexed once by the offsets where they start; the line of an offset is the last one that does not start
after it. An offset past the end is the end; an offset inside a character counts bytes instead.

Looking up a position takes one from a count, reads the table of lines and takes one offset from another.
Each of these could fail (`position?`), and on an index none does (`isSome_position?`).
-/

namespace CuratedList.Text
set_option autoImplicit false

/-! ## Bisection -/

/-- Where `p` stops to hold in `xs`, between `low` and `high`. -/
def bisect (p : Nat → Bool) (xs : Array Nat) (low high : Nat) (inside : high ≤ xs.size) : Nat :=
  if _h : low < high then
    let middle := low + (high - low) / 2
    if p xs[middle] then bisect p xs (middle + 1) high inside
    else bisect p xs low middle (by omega)
  else low
  termination_by high - low

/-- The number of elements that satisfy `p`, if they stand before all others. -/
def partitionPoint (p : Nat → Bool) (xs : Array Nat) : Nat := bisect p xs 0 xs.size (Nat.le_refl _)

/-- `p` holds right before the place where it stops to hold, and not there. -/
theorem bisect_spec (p : Nat → Bool) (xs : Array Nat) (low high : Nat) (inside : high ≤ xs.size)
    (ordered : low ≤ high) (before : ∀ i x, i + 1 = low → xs[i]? = some x → p x = true)
    (after : ∀ x, xs[high]? = some x → p x = false) :
    bisect p xs low high inside ≤ high ∧
      (∀ i x, i + 1 = bisect p xs low high inside → xs[i]? = some x → p x = true) ∧
      ∀ x, xs[bisect p xs low high inside]? = some x → p x = false := by
  fun_induction bisect p xs low high inside with
  | case1 low high inside narrow middle holds ih =>
    have within : middle < high := by omega
    refine ih (by omega) ?_ after
    rintro i x same here
    obtain rfl : i = middle := Nat.succ.inj same
    rw [Array.getElem?_eq_getElem, Option.some.injEq] at here
    rw [← here]
    exact holds
  | case2 low high inside narrow middle fails ih =>
    have within : middle < high := by omega
    have here (x : Nat) (at' : xs[middle]? = some x) : p x = false := by
      rw [Array.getElem?_eq_getElem, Option.some.injEq] at at'
      rw [← at', Bool.eq_false_iff]
      exact fails
    obtain ⟨le, found⟩ := ih (by omega) before here
    exact ⟨by omega, found⟩
  | case3 low high inside closed =>
    obtain rfl : low = high := by omega
    exact ⟨Nat.le_refl _, before, after⟩

theorem partitionPoint_spec (p : Nat → Bool) (xs : Array Nat) :
    partitionPoint p xs ≤ xs.size ∧
      (∀ i x, i + 1 = partitionPoint p xs → xs[i]? = some x → p x = true) ∧
      ∀ x, xs[partitionPoint p xs]? = some x → p x = false :=
  bisect_spec p xs 0 xs.size (Nat.le_refl _) (Nat.zero_le _) nofun (by simp)

/-! ## Positions -/

/-- A line and a column, both counted from one. -/
structure Position where
  line : Nat
  column : Nat
  deriving DecidableEq, Repr

/-- The offsets right after the line feeds of a text that starts at `pos`. -/
def lineEnds (pos : Nat) : List Char → List Nat
  | [] => []
  | c :: cs =>
    let next := pos + c.utf8Size
    if c = '\n' then next :: lineEnds next cs else lineEnds next cs

/-- A source with the offsets where its lines start. -/
structure LineIndex where
  source : List Char
  starts : Array Nat
  first : starts[0]? = some 0

namespace LineIndex

def ofSource (source : List Char) : LineIndex where
  source := source
  starts := (0 :: lineEnds 0 source).toArray
  first := rfl

/-- The position of a byte offset, if no step of the look-up fails. -/
def position? (index : LineIndex) (offset : Nat) : Option Position := do
  let offset := min offset (byteLength index.source)
  let line ← sub? (partitionPoint (· ≤ offset) index.starts) 1
  let start ← index.starts[line]?
  let bytes ← sub? offset start
  let column :=
    match slice? index.source start offset with
    | some before => before.length
    | none => bytes
  return ⟨line + 1, column + 1⟩

/-- The line of an offset starts no later than it, and the next line does. -/
theorem exists_line (index : LineIndex) (offset : Nat) :
    ∃ line start, partitionPoint (· ≤ offset) index.starts = line + 1 ∧
      index.starts[line]? = some start ∧ start ≤ offset ∧
      ∀ next, index.starts[line + 1]? = some next → offset < next := by
  obtain ⟨inside, before, after⟩ := partitionPoint_spec (· ≤ offset) index.starts
  cases count : partitionPoint (· ≤ offset) index.starts with
  | zero =>
    -- the first line starts at 0, so there is one that does not start after the offset
    have none := after 0 (by rw [count]; exact index.first)
    simp at none
  | succ line =>
    have within : line < index.starts.size := by omega
    have here := Array.getElem?_eq_getElem within
    refine ⟨line, index.starts[line], rfl, here, ?_, fun next at' => ?_⟩
    · exact of_decide_eq_true (before line _ count.symm here)
    · exact Nat.lt_of_not_le (of_decide_eq_false (after next (by rw [count]; exact at')))

/-- A look-up that finds its line gives a position in it. -/
theorem position?_eq_some (index : LineIndex) {offset line start : Nat}
    (count : partitionPoint (· ≤ min offset (byteLength index.source)) index.starts = line + 1)
    (here : index.starts[line]? = some start) (le : start ≤ min offset (byteLength index.source)) :
    index.position? offset =
      some ⟨line + 1,
        (match slice? index.source start (min offset (byteLength index.source)) with
          | some before => before.length
          | none => min offset (byteLength index.source) - start) + 1⟩ := by
  simp only [position?, count, sub?, Nat.le_add_left, if_true, Nat.add_sub_cancel, here, le, bind,
    Option.bind, pure]

theorem isSome_position? (index : LineIndex) (offset : Nat) :
    (index.position? offset).isSome = true := by
  obtain ⟨line, start, count, here, le, -⟩ :=
    index.exists_line (min offset (byteLength index.source))
  rw [index.position?_eq_some count here le]
  rfl

def position (index : LineIndex) (offset : Nat) : Position :=
  (index.position? offset).get (index.isSome_position? offset)

end LineIndex

/-- The position of a byte offset of a source. -/
def Position.ofOffset (source : List Char) (offset : Nat) : Position :=
  (LineIndex.ofSource source).position offset

end CuratedList.Text
