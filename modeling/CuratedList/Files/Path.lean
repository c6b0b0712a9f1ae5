/-! # Paths

A path is a text; slashes divide it into parts. Two texts are the same path if they have the same
components, which leave out empty parts and those that stay where they are.
-/

namespace CuratedList.Path
set_option autoImplicit false

/-- The texts between slashes, empty ones included. -/
def partsFrom : (part cs : List Char) → List (List Char)
  | part, [] => [part.reverse]
  | part, c :: cs => if c = '/' then part.reverse :: partsFrom [] cs else partsFrom (c :: part) cs

/-- The texts between the slashes of a path, empty ones included. -/
def parts (path : String) : List String := (partsFrom [] path.toList).map String.ofList

/-- A path from the root. -/
def isAbsolute (path : String) : Bool := path.toList.head? == some '/'

/-- The components of a path: its parts without empty ones and without periods, but with a leading root
or a leading period. -/
def components (path : String) : List String :=
  let named := fun ps : List String => ps.filter fun p => p != "" && p != "."
  if isAbsolute path then "/" :: named (parts path)
  else
    match parts path with
    | "." :: ps => "." :: named ps
    | ps => named ps

/-- Two texts stand for the same path. -/
def same (a b : String) : Bool := components a == components b

/-- The path `b`, seen from `a`. -/
def join (a b : String) : String :=
  if isAbsolute b || a.isEmpty then b
  else if a.toList.getLast? == some '/' then a ++ b
  else a ++ "/" ++ b

/-- The path without the slashes at its end. -/
def withoutLastSlashes (path : String) : String :=
  String.ofList (path.toList.reverse.dropWhile (· == '/')).reverse

/-- The path of the given components. -/
def ofComponents (cs : List String) : String := cs.foldl join ""

/-- The path without its last component; nothing is above a root or an empty path. -/
def parent? (path : String) : Option String :=
  match components path with
  | [] | ["/"] => none
  | cs => some (ofComponents cs.dropLast)

end CuratedList.Path
