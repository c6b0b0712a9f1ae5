/-! # Byte ranges

A `Span` is the half-open range of UTF-8 bytes of a source that a node was read from. Nodes keep
spans; lines and columns are computed from them only when a diagnostic is written.
-/

namespace CuratedList
set_option autoImplicit false

/-- The bytes `start ≤ i < stop` of a source. -/
structure Span where
  start : Nat := 0
  stop : Nat := 0
  deriving DecidableEq, Repr, Inhabited

namespace Span

/-- The least span that holds both. -/
def cover (a b : Span) : Span := ⟨min a.start b.start, max a.stop b.stop⟩

/-- Every byte of `a` lies in `b`. -/
def Within (a b : Span) : Prop := b.start ≤ a.start ∧ a.stop ≤ b.stop

instance (a b : Span) : Decidable (a.Within b) := inferInstanceAs (Decidable (_ ∧ _))

@[simp] theorem cover_self (a : Span) : a.cover a = a := by simp [cover]

theorem within_cover_left (a b : Span) : a.Within (a.cover b) :=
  ⟨Nat.min_le_left .., Nat.le_max_left ..⟩

theorem within_cover_right (a b : Span) : b.Within (a.cover b) :=
  ⟨Nat.min_le_right .., Nat.le_max_right ..⟩

end Span
end CuratedList
