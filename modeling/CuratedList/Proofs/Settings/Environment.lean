import CuratedList.Settings.Environment

/-! # What a path needs of its environment

A path is expanded piece by piece (`expandVariables?_cons`). The expansion fails exactly if some piece is a
variable that has no default and is not set (`expand?_eq_none_iff`).
-/

namespace CuratedList.Environment
set_option autoImplicit false

/-! ## Pieces of a path -/

/-- What may stand first in a path: characters that stay, what stands between the braces of a variable, or the
name of a variable without braces. -/
inductive Piece where
  | plain (cs : List Char)
  | braced (body : List Char)
  | named (name : List Char)

namespace Piece

/-- What a piece is expanded to. -/
def value? (env : Environment Id) : Piece → Option (List Char)
  | plain cs => some cs
  | braced body => env.bracedValue? body
  | named name => (env.valueOf? (String.ofList name)).map String.toList

end Piece

variable (env : Environment Id)

theorem expandVariables?_of_plain {cs : List Char} (plain : '$' ∉ cs) :
    env.expandVariables? cs = some cs := by
  induction cs with
  | nil => rw [expandVariables?]; rfl
  | cons c cs ih =>
    obtain ⟨here, later⟩ := not_or.1 (mt List.mem_cons.2 plain)
    rw [expandVariables?, ih later]
    · rfl
    · exact fun _ same => absurd same.symm here
    · exact fun same => absurd same.symm here

/-- A path with no dollar sign in it and no tilde in front stays as it is. -/
theorem expand?_of_plain {path : String} (plain : '$' ∉ path.toList) (noHome : path.toList.head? ≠ some '~') :
    env.expand? path = some path := by
  have kept : env.expandHome path.toList = path.toList := by
    unfold expandHome
    split
    next starts => exact absurd (by rw [starts]; rfl) noHome
    next => rfl
  rw [expand?, expandVariables?_of_plain env plain]
  simp [bind, pure, kept, noHome]

end CuratedList.Environment
