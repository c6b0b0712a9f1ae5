import CuratedList.Files
import CuratedList.Files.Path

/-! # Stores

A file system held as a value. Locations start at the root, which is always there; paths start there or in
the working directory. Reading changes nothing, and writing gives a new store.
-/

namespace CuratedList
set_option autoImplicit false

/-- What a location holds. -/
inductive FileNode where
  | directory
  | file (content : ByteArray)

/-- Nodes are equal as their bytes are. -/
instance : DecidableEq FileNode
  | .directory, .directory => isTrue rfl
  | .directory, .file _ => isFalse nofun
  | .file _, .directory => isFalse nofun
  | .file a, .file b =>
    match ByteArray.instDecidableEq a b with
    | isTrue same => isTrue (congrArg FileNode.file same)
    | isFalse other => isFalse fun same => other (FileNode.file.inj same)

/-- The kind of a node. -/
def FileNode.kind : FileNode → FileKind
  | .directory => .directory
  | .file _ => .file

/-- The nodes below the root, each at its location, and the location of the working directory. -/
structure Store where
  nodes : List (List String × FileNode)
  working : List String

namespace Store

/-- No files at all: what is there is the working directory. -/
def empty : Store := ⟨[(["work"], .directory)], ["work"]⟩

/-- The node at a location. The root is always there. -/
def nodeAt? (s : Store) (location : List String) : Option FileNode :=
  if location = [] then some .directory else s.nodes.lookup location

/-! ## Following paths -/

/-- So many bytes a name may have at most. -/
def maxName : Nat := 255

/-- So many bytes a path must stay below. -/
def maxPath : Nat := 4096

/-- One part of a path, followed from a location, which has to be a directory. Nothing is above the root.
Whether something is at the next location does not matter yet. -/
def step (s : Store) (location : List String) (part : String) : Except FileError (List String) :=
  match s.nodeAt? location with
  | none => .error .notFound
  | some (.file _) => .error .notDirectory
  | some .directory =>
    if part = "" || part = "." then .ok location
    else if part = ".." then .ok location.dropLast
    else if maxName < part.utf8ByteSize then .error .nameTooLong
    else .ok (location ++ [part])

/-- The parts of a path, followed from a location. -/
def follow (s : Store) : List String → List String → Except FileError (List String)
  | location, [] => .ok location
  | location, part :: parts =>
    match s.step location part with
    | .error e => .error e
    | .ok next => s.follow next parts

/-- Where a path starts. -/
def start (s : Store) (path : String) : List String := if Path.isAbsolute path then [] else s.working

/-- The location that a path leads to, whether something is there or not. -/
def locate (s : Store) (path : String) : Except FileError (List String) :=
  if path.isEmpty then .error .notFound
  else if path.toList.contains '\x00' then .error .nulInName
  else if maxPath ≤ path.utf8ByteSize then .error .nameTooLong
  else s.follow (s.start path) (Path.parts path)

/-- What a path leads to. -/
def find (s : Store) (path : String) : Except FileError (List String × FileNode) :=
  match s.locate path with
  | .error e => .error e
  | .ok location =>
    match s.nodeAt? location with
    | some node => .ok (location, node)
    | none => .error .notFound

/-! ## Reading -/

/-- The bytes of a file. -/
def read (s : Store) (path : String) : Except FileError ByteArray :=
  match s.find path with
  | .error e => .error e
  | .ok (_, .directory) => .error .isDirectory
  | .ok (_, .file content) => .ok content

/-- The entries of a directory: names and kinds. -/
def list (s : Store) (path : String) : Except FileError (List (String × FileKind)) :=
  match s.find path with
  | .error e => .error e
  | .ok (_, .file _) => .error .notDirectory
  | .ok (location, .directory) =>
    .ok (s.nodes.filterMap fun (l, node) =>
      match l.getLast? with
      | some name => if l.dropLast = location then some (name, node.kind) else none
      | none => none)

/-- The store as a file system that is read. -/
def files (s : Store) : Files Id where
  kind? path := (s.find path).toOption.map fun found => found.2.kind
  read := s.read
  entries := s.list
  depth := s.nodes.foldl (fun depth e => max depth e.1.length) 0

/-! ## Writing -/

/-- The store with a node put at a location. -/
def put (s : Store) (location : List String) (node : FileNode) : Store :=
  { s with nodes := (location, node) :: s.nodes.filter fun e => e.1 != location }

@[simp] theorem nodeAt?_put (s : Store) {location : List String} (node : FileNode)
    (h : location ≠ []) : (s.put location node).nodeAt? location = some node := by
  simp [nodeAt?, put, h]

/-- Makes the directory of a path, in a directory that is there. -/
def makeDirectory (s : Store) (path : String) : Except FileError Store :=
  match s.locate path with
  | .error e => .error e
  | .ok location =>
    if (s.nodeAt? location).isSome then .error .alreadyExists else .ok (s.put location .directory)

/-- Makes a directory unless it is there. -/
def ensureDirectory (s : Store) (path : String) : Except FileError Store :=
  match s.makeDirectory path with
  | .error .alreadyExists =>
    match s.find path with
    | .ok (_, .directory) => .ok s
    | _ => .error .alreadyExists
  | other => other

/-- Makes a directory, and those around it as far as they are missing; the components of its path are
given from the last one on. -/
def makePathFrom (s : Store) : List String → Except FileError Store
  | [] => .ok s
  | name :: around =>
    let path := Path.ofComponents (name :: around).reverse
    match s.ensureDirectory path with
    | .error .notFound =>
      match s.makePathFrom around with
      | .ok s => s.ensureDirectory path
      | .error e => .error e
    | other => other

/-- Makes a directory, and those around it as far as they are missing. -/
def makePath (s : Store) (path : String) : Except FileError Store :=
  s.makePathFrom (Path.components path).reverse

/-- Writes a file whole. Its directory has to be there, and a slash at the end of a path leaves no name
for a file. -/
def write (s : Store) (path : String) (content : ByteArray) : Except FileError Store :=
  let named := Path.withoutLastSlashes path
  match s.locate (if named.isEmpty then path else named) with
  | .error e => .error e
  | .ok location =>
    if s.nodeAt? location = some .directory ∨ named ≠ path then .error .isDirectory
    else .ok (s.put location (.file content))

end Store
end CuratedList
