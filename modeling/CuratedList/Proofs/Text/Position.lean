import CuratedList.Proofs.Text.Lines
import Mathlib.Data.List.Induction
import Mathlib.Data.Prod.Lex
import Mathlib.Order.Monotone.Defs

/-! # Positions are in the order of offsets

At the end of a character, the position of an offset counts the line feeds and characters before it, one
after another (`ofOffset_of_boundary`). So positions of such offsets are different, and in order: lines
first, then columns. Offsets inside characters are not; their columns count bytes.

Counting again up to a position finds its offset (`offset?_ofOffset`).
-/

namespace CuratedList.Text
set_option autoImplicit false

/-- The offset `n` is at the start, or at the end of a character. -/
def IsBoundary (cs : List Char) (n : Nat) : Prop := ∃ before, before <+: cs ∧ byteLength before = n

namespace Position

/-- Positions by lines first, then columns. -/
def key (p : Position) : ℕ ×ₗ ℕ := toLex (p.line, p.column)

/-- The position after one more character. -/
def next (here : Position) (c : Char) : Position :=
  if c = '\n' then ⟨here.line + 1, 1⟩ else ⟨here.line, here.column + 1⟩

def after (here : Position) (cs : List Char) : Position := cs.foldl next here

theorem after_start (cs : List Char) :
    after ⟨1, 1⟩ cs = ⟨cs.count '\n' + 1, (lastLine cs).length + 1⟩ := by
  induction cs using List.reverseRecOn with
  | nil => rfl
  | append_singleton cs c ih =>
    have step : after ⟨1, 1⟩ (cs ++ [c]) = (after ⟨1, 1⟩ cs).next c := List.foldl_append
    rw [step, ih, next, List.count_append]
    by_cases feed : c = '\n'
    · subst feed
      simp [lastLine, takeWhileEnd]
    · simp [lastLine, takeWhileEnd, feed]

theorem ofOffset_of_boundary (before rest : List Char) :
    ofOffset (before ++ rest) (byteLength before) = after ⟨1, 1⟩ before := by
  have here : min (byteLength before) (byteLength (before ++ rest)) = byteLength before := by
    rw [byteLength_append]
    omega
  have found := position?_of_boundary before rest here
  simp only [ofOffset, LineIndex.position, found, Option.get_some, after_start]

theorem key_lt_next (here : Position) (c : Char) : here.key < (here.next c).key := by
  unfold next
  split
  · exact Prod.Lex.toLex_lt_toLex.2 (.inl (Nat.lt_succ_self _))
  · exact Prod.Lex.toLex_lt_toLex.2 (.inr ⟨rfl, Nat.lt_succ_self _⟩)

theorem key_le_after (here : Position) (cs : List Char) : here.key ≤ (here.after cs).key := by
  induction cs generalizing here with
  | nil => exact le_refl _
  | cons c cs ih => exact (key_lt_next here c).le.trans (ih (here.next c))

/-- On the boundaries of characters, a later offset has a later position. -/
theorem ofOffset_strictMonoOn (cs : List Char) :
    StrictMonoOn (fun n => (ofOffset cs n).key) {n | IsBoundary cs n} := by
  rintro a ⟨as, ha, rfl⟩ b ⟨bs, hb, rfl⟩ lt
  -- the later boundary is reached from the earlier one by one character at least
  obtain ⟨more, rfl⟩ : as <+: bs := by
    rcases List.prefix_or_prefix_of_prefix ha hb with shorter | longer
    · exact shorter
    · obtain ⟨rest, rfl⟩ := longer
      rw [byteLength_append] at lt
      omega
  obtain ⟨rest, rfl⟩ := hb
  cases more with
  | nil =>
    rw [List.append_nil] at lt
    exact absurd lt (Nat.lt_irrefl _)
  | cons c more =>
    show (ofOffset _ _).key < (ofOffset _ _).key
    rw [ofOffset_of_boundary, List.append_assoc, ofOffset_of_boundary, after, after,
      List.foldl_append]
    exact (key_lt_next _ c).trans_le (key_le_after _ more)

/-! ## From positions to offsets -/

/-- The offset at which the count of lines and columns comes to a position, where it is at `here` and at
`offset` now. -/
def locate (goal here : Position) (offset : Nat) : List Char → Option Nat
  | [] => if here = goal then some offset else none
  | c :: cs => if here = goal then some offset else locate goal (here.next c) (offset + c.utf8Size) cs

/-- The offset that a source has at a position. -/
def offset? (source : List Char) (goal : Position) : Option Nat := locate goal ⟨1, 1⟩ 0 source

theorem locate_after (here : Position) (offset : Nat) (before rest : List Char) :
    locate (here.after before) here offset (before ++ rest) = some (offset + byteLength before) := by
  induction before generalizing here offset with
  | nil => cases rest <;> exact if_pos rfl
  | cons c before ih =>
    -- the count does not come to the goal early, since it only grows on the way
    have ahead : here ≠ here.after (c :: before) := by
      intro same
      have later := (key_lt_next here c).trans_le (key_le_after (here.next c) before)
      exact later.ne (congrArg key same)
    rw [List.cons_append, locate, if_neg ahead, byteLength_cons, ← Nat.add_assoc]
    exact ih (here.next c) (offset + c.utf8Size)

theorem offset?_ofOffset {source : List Char} {offset : Nat} (boundary : IsBoundary source offset) :
    offset? source (ofOffset source offset) = some offset := by
  obtain ⟨before, ⟨rest, rfl⟩, rfl⟩ := boundary
  rw [ofOffset_of_boundary, offset?, locate_after, Nat.zero_add]

end Position
end CuratedList.Text
