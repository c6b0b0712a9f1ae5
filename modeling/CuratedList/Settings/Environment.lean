import CuratedList.Text.Letters

/-! # The environment

A home directory and variables. A path may start with a tilde for the home directory, and name variables
after dollar signs.
-/

namespace CuratedList
set_option autoImplicit false

/-- The home directory, and the values of the variables that are set, which are asked for in the monad
`m`. -/
structure Environment (m : Type → Type) where
  home? : Option String
  valueOf? : String → m (Option String)

namespace Environment

variable {m : Type → Type} [Monad m]

/-- A path with the home directory in place of a tilde that stands for it. -/
def expandHome (env : Environment m) (path : List Char) : List Char :=
  match path with
  | '~' :: rest =>
    if rest.isEmpty || rest.head? = some '/' then
      match env.home? with
      | some home => home.toList ++ rest
      | none => path
    else path
  | _ => path

/-- A character of the name of a variable. -/
def isVariableChar (c : Char) : Bool := Text.isAlphanumeric c || c == '_'

/-- The part of a text before the first `:-`, and the part after it. -/
def splitDefault? : List Char → Option (List Char × List Char)
  | ':' :: '-' :: cs => some ([], cs)
  | c :: cs => (splitDefault? cs).map fun (before, after) => (c :: before, after)
  | [] => none

/-- The value of what stands between the braces of a variable: a name, or a name, `:-` and a default for
a variable that is not set or empty. -/
def bracedValue? (env : Environment m) (body : List Char) : m (Option (List Char)) := do
  let (name, default?) :=
    match splitDefault? body with
    | some (c :: name, default) => (c :: name, some default)
    | _ => (body, none)
  match ← env.valueOf? (String.ofList name) with
  | none => return default?
  | some value =>
    if value.isEmpty then
      return some (default?.getD (['$', Char.ofNat 0x7B] ++ body ++ [Char.ofNat 0x7D]))
    else return some value.toList

/-- A path with the values of its variables. There is none if a variable without a default is not set. -/
def expandVariables? (env : Environment m) (cs : List Char) : m (Option (List Char)) :=
  match cs with
  | [] => return some []
  | '$' :: '$' :: cs => return (← env.expandVariables? cs).map ('$' :: ·)
  | '$' :: cs =>
    if cs.head? = some (Char.ofNat 0x7B) then
      let body := cs.takeWhile (· != Char.ofNat 0x7D)
      match _h : cs.dropWhile (· != Char.ofNat 0x7D) with
      | _ :: rest => do
        match ← env.bracedValue? (body.drop 1) with
        | none => return none
        | some value => return (← env.expandVariables? rest).map (value ++ ·)
      | [] => return (← env.expandVariables? (cs.drop 1)).map (['$', Char.ofNat 0x7B] ++ ·)
    else
      let name := cs.takeWhile isVariableChar
      if name.isEmpty then return (← env.expandVariables? cs).map ('$' :: ·)
      else do
        match ← env.valueOf? (String.ofList name) with
        | none => return none
        | some value =>
          return (← env.expandVariables? (cs.dropWhile isVariableChar)).map (value.toList ++ ·)
  | c :: cs => return (← env.expandVariables? cs).map (c :: ·)
  termination_by cs.length
  decreasing_by
    all_goals simp only [List.length_cons, List.length_drop]
    all_goals first
      | omega
      | (have shorter := (List.dropWhile_sublist (p := isVariableChar) (l := cs)).length_le; omega)
      | (have shorter := (List.dropWhile_sublist (p := (· != Char.ofNat 0x7D)) (l := cs)).length_le
         rw [_h, List.length_cons] at shorter
         omega)

/-- A path with its variables and its tilde expanded. A tilde that comes from a variable stays. There is
no such path if a variable without a default is not set. -/
def expand? (env : Environment m) (path : String) : m (Option String) := do
  let cs := path.toList
  return (← env.expandVariables? cs).map fun expanded =>
    if cs.head? ≠ some '~' && expanded.head? = some '~' then String.ofList expanded
    else String.ofList (env.expandHome expanded)

end Environment
end CuratedList
