import CuratedList.Files
import CuratedList.Files.Path
import CuratedList.Files.Pattern

/-! # Searching for files

A path pattern gives the paths that match it, part by part, in the order of the names in each directory.
Directories that cannot be listed are reported in their place.
-/

namespace CuratedList
set_option autoImplicit false

/-- A path pattern: where the search starts, the tokens for each part of the path, and whether only
directories count. -/
structure PathPattern where
  start : String
  parts : List (List PatternToken)
  directoriesOnly : Bool

/-- The pattern of a text. -/
def PathPattern.ofText (text : String) : Except PatternError PathPattern := do
  let _ ← PatternToken.ofText text
  let absolute := Path.isAbsolute text
  let parts := Path.parts (if absolute then String.ofList (text.toList.drop 1) else text)
  let parts := if parts.getLast? = some "" && 1 < parts.length then parts.dropLast else parts
  return {
    start := if absolute then "/" else "."
    parts := ← parts.mapM PatternToken.ofText
    directoriesOnly := text.toList.getLast? == some '/' }

namespace PathPattern

variable {m : Type → Type} [Monad m]

/-- The part stands for any number of directories. -/
def isRecursive (part : List PatternToken) : Bool := part == [.anyDirectories]

/-- The path of a name that a directory holds; in the directory where a search starts it is the name. -/
def inside (path name : String) : String :=
  if Path.same path "." then name else Path.join path name

/-- A path that matches the whole pattern, if its kind counts. -/
def accept (directoriesOnly : Bool) (path : String) (kind : Option FileKind) :
    List (Except Unreadable String) :=
  if directoriesOnly && kind != some .directory then [] else [.ok path]

/-- What matches the parts below a path. Each call takes a part away or goes one directory down, so
`fuel` bounds how far they lead. -/
def searchFrom (files : Files m) (directoriesOnly : Bool) :
    (fuel : Nat) → List (List PatternToken) → String → m (List (Except Unreadable String))
  | 0, _, _ => return []
  | _, [], _ => return []
  | fuel + 1, part :: parts, path => do
    let below := searchFrom files directoriesOnly fuel
    let kind ← files.kind? path
    let arrive := fun (parts : List (List PatternToken)) (next : String) (kind : Option FileKind) =>
      if parts.isEmpty then pure (accept directoriesOnly next kind) else below parts next
    match PatternToken.literal? part with
    | some name =>
      let name := String.ofList name
      let next := inside path name
      let nextKind ← files.kind? next
      let there := if name = "." || name = ".." then kind == some .directory else nextKind.isSome
      if there then arrive parts next nextKind else return []
    | none =>
      if kind != some .directory then return []
      match ← files.entries path with
      | .error cause => return [.error ⟨path, cause⟩]
      | .ok entries =>
        let dots ← ["..", "."].mapM fun dots => do
          if part.head? == some (.char '.') && PatternToken.allMatch part dots.toList then
            let next := Path.join path dots
            arrive parts next (← files.kind? next)
          else return []
        let found ← (entries.mergeSort fun a b => a.1 ≤ b.1).mapM fun (name, kind) => do
          let next := inside path name
          if isRecursive part then
            let parts := parts.dropWhile isRecursive
            let here ←
              match parts with
              | [] => pure (accept true next (some kind))
              | named :: parts =>
                if PatternToken.allMatch named name.toList then arrive parts next (some kind)
                else pure []
            let deeper ← if kind = .directory then below (part :: parts) next else pure []
            return here ++ deeper
          else if PatternToken.allMatch part name.toList then arrive parts next (some kind)
          else return []
        return dots.flatten ++ found.flatten

/-- What matches a pattern, and the directories that cannot be listed, in the order of the search. -/
def search (files : Files m) (p : PathPattern) : m (List (Except Unreadable String)) :=
  searchFrom files p.directoriesOnly (files.depth + p.parts.length + 1) p.parts p.start

end PathPattern
end CuratedList
