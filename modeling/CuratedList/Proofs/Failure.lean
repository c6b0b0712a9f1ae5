import Mathlib.Data.List.Basic

/-! # The first failure in a list

A loop that stops at the first failure gives away which element failed and why. `FirstFailure` says which
that is without the loop: everything before it is fine.
-/

namespace CuratedList
set_option autoImplicit false

variable {α β ε : Type}

/-- Of `xs`, the element `x` is the first one at which `f` fails, and `e` is why. -/
def FirstFailure (f : α → Except ε β) (xs : List α) (x : α) (e : ε) : Prop :=
  ∃ before after, xs = before ++ x :: after ∧ (∀ y ∈ before, ∃ b, f y = .ok b) ∧ f x = .error e

namespace FirstFailure

variable {f : α → Except ε β} {y : α} {ys : List α} {x : α} {e : ε}

theorem not_nil : ¬ FirstFailure f [] x e := by
  rintro ⟨before, after, split, -⟩
  cases before <;> cases split

theorem cons_of_ok {b : β} (fine : f y = .ok b) :
    FirstFailure f (y :: ys) x e ↔ FirstFailure f ys x e := by
  constructor
  · rintro ⟨before, after, split, earlier, fails⟩
    cases before with
    | nil =>
      obtain ⟨rfl, rfl⟩ := List.cons.inj split
      cases fine.symm.trans fails
    | cons _ before =>
      obtain ⟨rfl, rfl⟩ := List.cons.inj split
      exact ⟨before, after, rfl, (List.forall_mem_cons.1 earlier).2, fails⟩
  · rintro ⟨before, after, rfl, earlier, fails⟩
    exact ⟨y :: before, after, rfl, List.forall_mem_cons.2 ⟨⟨b, fine⟩, earlier⟩, fails⟩

theorem cons_of_error {d : ε} (fails : f y = .error d) :
    FirstFailure f (y :: ys) x e ↔ x = y ∧ e = d := by
  constructor
  · rintro ⟨before, after, split, earlier, here⟩
    cases before with
    | nil =>
      obtain ⟨rfl, rfl⟩ := List.cons.inj split
      exact ⟨rfl, (Except.error.inj (fails.symm.trans here)).symm⟩
    | cons _ before =>
      obtain ⟨rfl, rfl⟩ := List.cons.inj split
      obtain ⟨b, fine⟩ := (List.forall_mem_cons.1 earlier).1
      cases fails.symm.trans fine
  · rintro ⟨rfl, rfl⟩
    exact ⟨[], ys, rfl, by simp, fails⟩

/-- If there is a failure, there is a first one. -/
theorem exists_iff (xs : List α) :
    (∃ x e, FirstFailure f xs x e) ↔ ∃ x ∈ xs, ∃ e, f x = .error e := by
  induction xs with
  | nil => simp [not_nil]
  | cons y ys ih =>
    simp only [List.mem_cons, exists_eq_or_imp, ← ih]
    cases here : f y with
    | error d => simp [cons_of_error here]
    | ok b => simp [cons_of_ok here]

end FirstFailure
end CuratedList
