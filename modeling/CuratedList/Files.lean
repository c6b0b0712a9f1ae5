/-! # Files

What the program asks of a file system, whichever it is: the kind of a path, the bytes of a file, and the
entries of a directory. Reasons for failure are kept apart, and each has its text.
-/

namespace CuratedList
set_option autoImplicit false

/-! ## Failures -/

/-- Why something cannot be done with a path. -/
inductive FileError where
  | notFound
  | alreadyExists
  | notDirectory
  | isDirectory
  | nameTooLong
  | nulInName
  | notUtf8
  | other (text : String)
  deriving DecidableEq, Repr

/-- The text of a failure. -/
def FileError.message : FileError → String
  | .notFound => "No such file or directory (os error 2)"
  | .alreadyExists => "File exists (os error 17)"
  | .notDirectory => "Not a directory (os error 20)"
  | .isDirectory => "Is a directory (os error 21)"
  | .nameTooLong => "File name too long (os error 36)"
  | .nulInName => "file name contained an unexpected NUL byte"
  | .notUtf8 => "stream did not contain valid UTF-8"
  | .other text => text

/-- A file that cannot be read, and why. -/
structure Unreadable where
  path : String
  cause : FileError
  deriving DecidableEq, Repr

/-- The text about an unreadable file. -/
def Unreadable.message (u : Unreadable) : String := s!"Failed to read {u.path}: {u.cause.message}"

/-! ## File systems -/

/-- What a path leads to. -/
inductive FileKind where
  | file
  | directory
  deriving DecidableEq, Repr

/-- A file system as it is seen by a program that only reads, in the monad `m` where answers are given.
`depth` bounds how deep directories lie in each other. -/
structure Files (m : Type → Type) where
  kind? : String → m (Option FileKind)
  read : String → m (Except FileError ByteArray)
  entries : String → m (Except FileError (List (String × FileKind)))
  depth : Nat

namespace Files

variable {m : Type → Type} [Monad m]

/-- The path leads to something. -/
def pathExists (files : Files m) (path : String) : m Bool := do
  return (← files.kind? path).isSome

/-- The path leads to a directory. -/
def isDirectory (files : Files m) (path : String) : m Bool := do
  return (← files.kind? path) == some .directory

/-- The text of a file. -/
def readText (files : Files m) (path : String) : m (Except FileError String) := do
  match ← files.read path with
  | .error e => return .error e
  | .ok bytes =>
    match String.fromUTF8? bytes with
    | some text => return .ok text
    | none => return .error .notUtf8

end Files
end CuratedList
