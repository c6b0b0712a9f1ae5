/-! # Byte offsets

Offsets into a text count bytes of its UTF-8 form. A text can be cut at an offset that is not inside a
character, and a slice is what stands between two such offsets.
-/

namespace CuratedList.Text
set_option autoImplicit false

/-- The number of UTF-8 bytes of a text. -/
def byteLength (cs : List Char) : Nat := cs.foldr (fun c size => c.utf8Size + size) 0

@[simp] theorem byteLength_nil : byteLength [] = 0 := rfl

@[simp] theorem byteLength_cons (c : Char) (cs : List Char) :
    byteLength (c :: cs) = c.utf8Size + byteLength cs := rfl

@[simp] theorem byteLength_append (as bs : List Char) :
    byteLength (as ++ bs) = byteLength as + byteLength bs := by
  induction as with
  | nil => rw [List.nil_append, byteLength_nil, Nat.zero_add]
  | cons a as ih => rw [List.cons_append, byteLength_cons, byteLength_cons, ih, Nat.add_assoc]

theorem byteLength_pos {cs : List Char} (some : cs ≠ []) : 0 < byteLength cs := by
  cases cs with
  | nil => exact absurd rfl some
  | cons c cs => exact Nat.add_pos_left c.utf8Size_pos _

/-- `a - b`, unless `b` is greater. -/
def sub? (a b : Nat) : Option Nat := if b ≤ a then some (a - b) else none

theorem sub?_byteLength_back (front back : List Char) :
    sub? (byteLength (front ++ back)) (byteLength back) = some (byteLength front) := by
  rw [byteLength_append, sub?, if_pos (Nat.le_add_left ..), Nat.add_sub_cancel]

theorem sub?_byteLength_front (front back : List Char) :
    sub? (byteLength (front ++ back)) (byteLength front) = some (byteLength back) := by
  rw [byteLength_append, sub?, if_pos (Nat.le_add_right ..), Nat.add_sub_cancel_left]

/-- The two parts of a text at an offset, if that is on the boundary of a character. -/
def splitAt? : (cs : List Char) → (offset : Nat) → Option (List Char × List Char)
  | cs, 0 => some ([], cs)
  | [], _ + 1 => none
  | c :: cs, offset + 1 =>
    if c.utf8Size ≤ offset + 1 then
      (splitAt? cs (offset + 1 - c.utf8Size)).map fun parts => (c :: parts.1, parts.2)
    else none

theorem splitAt?_eq_some_iff {cs front back : List Char} {offset : Nat} :
    splitAt? cs offset = some (front, back) ↔ cs = front ++ back ∧ byteLength front = offset := by
  fun_induction splitAt? cs offset generalizing front with
  | case1 cs =>
    cases front with
    | nil => simp [eq_comm]
    | cons c front =>
      have positive := c.utf8Size_pos
      simp
      omega
  | case2 offset =>
    cases front with
    | nil => simp
    | cons c front => simp
  | case3 c cs offset inside ih =>
    cases front with
    | nil => simp
    | cons d front =>
      simp only [Option.map_eq_some_iff, Prod.mk.injEq, List.cons.injEq, Prod.exists, List.cons_append,
        byteLength_cons]
      constructor
      · rintro ⟨front, back, cut, ⟨rfl, rfl⟩, rfl⟩
        obtain ⟨whole, length⟩ := ih.1 cut
        exact ⟨⟨rfl, whole⟩, by omega⟩
      · rintro ⟨⟨rfl, whole⟩, length⟩
        exact ⟨front, back, ih.2 ⟨whole, by omega⟩, ⟨rfl, rfl⟩, rfl⟩
  | case4 c cs offset across =>
    cases front with
    | nil => simp
    | cons d front =>
      simp only [reduceCtorEq, List.cons_append, List.cons.injEq, byteLength_cons, false_iff]
      rintro ⟨⟨rfl, -⟩, length⟩
      omega

/-- What stands between two offsets, if both are on boundaries of characters and in this order. -/
def slice? (cs : List Char) (start stop : Nat) : Option (List Char) :=
  if stop < start then none
  else do
    let outer ← splitAt? cs start
    let inner ← splitAt? outer.2 (stop - start)
    return inner.1

theorem slice?_eq_some_iff {cs part : List Char} {start stop : Nat} :
    slice? cs start stop = some part ↔
      ∃ before after, cs = before ++ part ++ after ∧ byteLength before = start ∧
        byteLength (before ++ part) = stop := by
  unfold slice?
  split
  next reversed =>
    simp only [reduceCtorEq, byteLength_append, false_iff]
    rintro ⟨before, after, -, rfl, rfl⟩
    omega
  next ordered =>
    simp only [Option.bind_eq_bind, Option.bind_eq_some_iff, Prod.exists, splitAt?_eq_some_iff,
      pure, Option.some.injEq]
    constructor
    · rintro ⟨before, rest, ⟨rfl, rfl⟩, front, after, ⟨rfl, length⟩, rfl⟩
      refine ⟨before, after, by simp, rfl, ?_⟩
      rw [byteLength_append]
      omega
    · rintro ⟨before, after, rfl, rfl, rfl⟩
      refine ⟨before, part ++ after, ⟨by simp, rfl⟩, part, after, ⟨rfl, ?_⟩, rfl⟩
      rw [byteLength_append]
      omega

/-- A slice that starts where `before` ends is what the rest of the text starts with. -/
theorem slice?_append_eq_some_iff {before rest part : List Char} {stop : Nat} :
    slice? (before ++ rest) (byteLength before) stop = some part ↔
      part <+: rest ∧ stop = byteLength before + byteLength part := by
  rw [slice?_eq_some_iff]
  constructor
  · rintro ⟨front, after, whole, length, rfl⟩
    have here : splitAt? (before ++ rest) (byteLength before) = some (front, part ++ after) :=
      splitAt?_eq_some_iff.2 ⟨by rw [whole, List.append_assoc], length⟩
    rw [splitAt?_eq_some_iff.2 ⟨rfl, rfl⟩, Option.some.injEq, Prod.mk.injEq] at here
    exact ⟨⟨after, here.2.symm⟩, by rw [byteLength_append, length]⟩
  · rintro ⟨⟨after, rfl⟩, rfl⟩
    exact ⟨before, after, by rw [List.append_assoc], rfl, byteLength_append ..⟩

/-- A start of a text and an end of it that do not overlap leave a slice between them. -/
theorem exists_slice? {front rest init back : List Char} (whole : front ++ rest = init ++ back)
    (le : byteLength front ≤ byteLength init) :
    ∃ inner, slice? (front ++ rest) (byteLength front) (byteLength init) = some inner := by
  rcases List.append_eq_append_iff.1 whole with ⟨inner, rfl, rfl⟩ | ⟨beyond, longer, -⟩
  · exact ⟨inner, slice?_append_eq_some_iff.2 ⟨List.prefix_append .., byteLength_append ..⟩⟩
  · -- the start is no longer than what stands before the end, so it is all of that
    have none : beyond = [] := by
      apply Classical.byContradiction
      intro some
      have positive := byteLength_pos some
      rw [longer, byteLength_append] at le
      omega
    obtain rfl : front = init := by rw [longer, none, List.append_nil]
    exact ⟨[], slice?_append_eq_some_iff.2 ⟨List.nil_prefix, rfl⟩⟩

end CuratedList.Text
