import CuratedList.Settings

/-! # Which settings are in force

The first candidate that is there decides (`Decides`): the file that is asked for, or else the project's file
before the user's. What comes of that file is the result, be it settings or a failure (`Contents`), and nothing
is looked for after it. So two file systems that agree on the candidates up to that one give the same result
(`discover_decided_by_first`).
-/

namespace CuratedList.Settings
set_option autoImplicit false

/-! ## Candidates -/

def projectPath (dir : String) : String := Path.join dir projectFile

variable (files : Files Id) (env : Environment Id)

/-- The file that decides on the settings in a directory: the one that is asked for, or else the project's if
it is there, and the user's if it is not. -/
inductive Decides (dir : String) : Option String → String → Prop
  | asked {path : String} (present : files.pathExists path = true) : Decides dir (some path) path
  | project (present : files.pathExists (projectPath dir) = true) : Decides dir none (projectPath dir)
  | user (noProject : files.pathExists (projectPath dir) = false)
      (present : files.pathExists (userPath env) = true) : Decides dir none (userPath env)

/-- What comes of a file of settings that is there. -/
inductive Contents (path : String) : Except SettingsError Settings → Prop
  | settings {document : String} {s : Settings} (read : files.readText path = .ok document)
      (parsed : ofToml? document = some s) : Contents path (.ok (s.expanded env))
  | malformed {document : String} (read : files.readText path = .ok document)
      (refused : ofToml? document = none) : Contents path (.error (.malformed path))
  | unreadable {cause : FileError} (failed : files.readText path = .error cause) :
      Contents path (.error (.unreadable path cause))

inductive Discovered (dir : String) : Option String → Except SettingsError Settings → Prop
  | candidate {explicit : Option String} {path : String} {result : Except SettingsError Settings}
      (decides : Decides files env dir explicit path) (contents : Contents files env path result) :
      Discovered dir explicit result
  | missing {path : String} (absent : files.pathExists path = false) :
      Discovered dir (some path) (.error (.notFound path))
  | defaults (noProject : files.pathExists (projectPath dir) = false)
      (noUser : files.pathExists (userPath env) = false) : Discovered dir none (.ok { })

/-! ## The search -/

section

variable {files : Files Id} {env : Environment Id} {dir path : String} {explicit : Option String}
  {result : Except SettingsError Settings}

theorem load_of_absent (absent : files.pathExists path = false) : load files env path = .ok none := by
  rw [load, absent]
  rfl

theorem Contents.load (h : Contents files env path result) (present : files.pathExists path = true) :
    load files env path = result.map some := by
  rw [Settings.load, present]
  simp only [bind, if_true]
  cases h with
  | settings read parsed => rw [read]; simp only [parsed]; rfl
  | malformed read refused => rw [read]; simp only [refused]; rfl
  | unreadable failed => rw [failed]; rfl

theorem exists_contents (files : Files Id) (env : Environment Id) (path : String) :
    ∃ result, Contents files env path result := by
  cases read : files.readText path with
  | error cause => exact ⟨_, .unreadable read⟩
  | ok document =>
    cases parsed : ofToml? document with
    | none => exact ⟨_, .malformed read parsed⟩
    | some s => exact ⟨_, .settings read parsed⟩

theorem firstOf_cons_of_absent (absent : files.pathExists path = false) (paths : List String) :
    firstOf files env (path :: paths) = firstOf files env paths := by
  rw [firstOf, load_of_absent absent]
  rfl

theorem Contents.firstOf (h : Contents files env path result) (present : files.pathExists path = true)
    (paths : List String) : firstOf files env (path :: paths) = result := by
  rw [Settings.firstOf, h.load present]
  cases result <;> rfl

/-- The search gives what comes of the file that decides. -/
theorem Decides.discover_eq (decides : Decides files env dir explicit path)
    (contents : Contents files env path result) : discover files env dir explicit = result := by
  cases decides with
  | asked present =>
    rw [discover, contents.load present]
    cases result <;> rfl
  | project present => exact contents.firstOf present _
  | user noProject present =>
    exact (firstOf_cons_of_absent noProject _).trans (contents.firstOf present _)

theorem Discovered.discover_eq (h : Discovered files env dir explicit result) :
    discover files env dir explicit = result := by
  cases h with
  | candidate decides contents => exact decides.discover_eq contents
  | missing absent => rw [discover, load_of_absent absent]; rfl
  | defaults noProject noUser =>
    exact (firstOf_cons_of_absent noProject _).trans (firstOf_cons_of_absent noUser [])

theorem exists_discovered (files : Files Id) (env : Environment Id) (dir : String)
    (explicit : Option String) : ∃ result, Discovered files env dir explicit result := by
  have candidate {path : String} (decides : Decides files env dir explicit path) :
      ∃ result, Discovered files env dir explicit result := by
    obtain ⟨result, contents⟩ := exists_contents files env path
    exact ⟨result, .candidate decides contents⟩
  cases explicit with
  | some path =>
    cases there : files.pathExists path with
    | true => exact candidate (.asked there)
    | false => exact ⟨_, .missing there⟩
  | none =>
    cases project : files.pathExists (projectPath dir) with
    | true => exact candidate (.project project)
    | false =>
      cases user : files.pathExists (userPath env) with
      | true => exact candidate (.user project user)
      | false => exact ⟨_, .defaults project user⟩

/-- The search for settings ends in one of these ways only. -/
theorem discover_eq_iff :
    discover files env dir explicit = result ↔ Discovered files env dir explicit result := by
  constructor
  · rintro rfl
    obtain ⟨result, discovered⟩ := exists_discovered files env dir explicit
    rwa [discovered.discover_eq]
  · exact Discovered.discover_eq

end

/-! ## Two file systems -/

section

variable {f g : Files Id} {env : Environment Id} {dir path : String} {explicit : Option String}
  {result : Except SettingsError Settings}

/-- Two file systems have the same at a path. -/
structure SameAt (f g : Files Id) (path : String) : Prop where
  kind : f.kind? path = g.kind? path
  content : f.read path = g.read path

theorem SameAt.pathExists (same : SameAt f g path) : f.pathExists path = g.pathExists path := by
  rw [Files.pathExists, Files.pathExists, same.kind]

theorem SameAt.readText (same : SameAt f g path) : f.readText path = g.readText path := by
  rw [Files.readText, Files.readText, same.content]

/-- Two file systems have the same at each candidate up to the first one that is there. -/
inductive SameCandidates (f g : Files Id) (env : Environment Id) (dir : String) : Option String → Prop
  | asked {path : String} (same : SameAt f g path) : SameCandidates f g env dir (some path)
  | unasked (project : SameAt f g (projectPath dir))
      (user : f.pathExists (projectPath dir) = false → SameAt f g (userPath env)) :
      SameCandidates f g env dir none

theorem Decides.transfer (same : SameCandidates f g env dir explicit)
    (h : Decides f env dir explicit path) : Decides g env dir explicit path ∧ SameAt f g path := by
  cases same with
  | asked same =>
    cases h with
    | asked present => exact ⟨.asked (same.pathExists ▸ present), same⟩
  | unasked project user =>
    cases h with
    | project present => exact ⟨.project (project.pathExists ▸ present), project⟩
    | user noProject present =>
      have user := user noProject
      exact ⟨.user (project.pathExists ▸ noProject) (user.pathExists ▸ present), user⟩

theorem Contents.transfer (same : SameAt f g path) (h : Contents f env path result) :
    Contents g env path result := by
  cases h with
  | settings read parsed => exact .settings (same.readText ▸ read) parsed
  | malformed read refused => exact .malformed (same.readText ▸ read) refused
  | unreadable failed => exact .unreadable (same.readText ▸ failed)

theorem Discovered.transfer (same : SameCandidates f g env dir explicit)
    (h : Discovered f env dir explicit result) : Discovered g env dir explicit result := by
  cases h with
  | candidate decides contents =>
    obtain ⟨decides, here⟩ := decides.transfer same
    exact .candidate decides (contents.transfer here)
  | missing absent =>
    cases same with
    | asked same => exact .missing (same.pathExists ▸ absent)
  | defaults noProject noUser =>
    cases same with
    | unasked project user =>
      exact .defaults (project.pathExists ▸ noProject) ((user noProject).pathExists ▸ noUser)

end

/-! ## What decides -/

/-- Settings that are in force come from the first candidate that is there, and are the defaults if nothing is
asked for and there is no candidate. A failure is that of the candidate too, or that the file that is asked for
is not there. File systems that have the same candidates up to the first one that is there give the same
result. -/
theorem discover_decided_by_first (env : Environment Id) (dir : String) (explicit : Option String) :
    (∀ f g : Files Id, SameCandidates f g env dir explicit →
      discover f env dir explicit = discover g env dir explicit) ∧
    ∀ files : Files Id,
      (∀ path, Decides files env dir explicit path →
        Contents files env path (discover files env dir explicit)) ∧
      (∀ path, discover files env dir explicit = .error (.notFound path) ↔
        explicit = some path ∧ files.pathExists path = false) ∧
      ∀ s, discover files env dir explicit = .ok s ↔
        (∃ path, Decides files env dir explicit path ∧ Contents files env path (.ok s)) ∨
        explicit = none ∧ files.pathExists (projectPath dir) = false ∧
          files.pathExists (userPath env) = false ∧ s = { } := by
  refine ⟨fun f g same => ?same, fun files => ⟨fun path decides => ?first, fun path => ?missing,
    fun s => ?settings⟩⟩
  case same => exact (((discover_eq_iff.1 rfl).transfer same).discover_eq).symm
  case first =>
    obtain ⟨result, contents⟩ := exists_contents files env path
    rwa [decides.discover_eq contents]
  case missing =>
    rw [discover_eq_iff]
    constructor
    · rintro (⟨-, contents⟩ | absent)
      · cases contents
      · exact ⟨rfl, absent⟩
    · rintro ⟨rfl, absent⟩
      exact .missing absent
  case settings =>
    rw [discover_eq_iff]
    constructor
    · rintro (⟨decides, contents⟩ | _ | ⟨noProject, noUser⟩)
      · exact .inl ⟨_, decides, contents⟩
      · exact .inr ⟨rfl, noProject, noUser, rfl⟩
    · rintro (⟨path, decides, contents⟩ | ⟨rfl, noProject, noUser, rfl⟩)
      · exact .candidate decides contents
      · exact .defaults noProject noUser

/-- A directory stands where the project's settings are looked for. The user's settings, which are good in one
of the file systems and missing in the other, do not hide it. -/
theorem discover_decided_by_first_directory :
    let there : Files Id := {
      kind? := fun path => some (if path = ".entrylint.toml" then .directory else .file)
      read := fun path => if path = ".entrylint.toml" then .error .isDirectory else .ok "".toUTF8
      entries := fun _ => .error .notDirectory
      depth := 1 }
    let missing : Files Id := {
      there with kind? := fun path => if path = ".entrylint.toml" then some .directory else none }
    let env : Environment Id := ⟨some "/home/user", fun _ => none⟩
    SameCandidates there missing env "" none ∧
      discover there env "" none = discover missing env "" none ∧
      Contents there env ".entrylint.toml" (discover there env "" none) ∧
      discover there env "" none = .error (.unreadable ".entrylint.toml" .isDirectory) := by
  intro there missing env
  have path : projectPath "" = ".entrylint.toml" := by decide
  have present : there.pathExists (projectPath "") = true := by
    rw [path]
    rfl
  have failed : there.readText (projectPath "") = .error .isDirectory := by
    rw [path]
    rfl
  have same : SameCandidates there missing env "" none := by
    refine .unasked ⟨?_, rfl⟩ fun absent => ?_
    · rw [path]
      rfl
    · cases present.symm.trans absent
  have told := discover_decided_by_first env "" none
  have first := (told.2 there).1 _ (.project present)
  have found : discover there env "" none = _ := (Decides.project present).discover_eq (.unreadable failed)
  rw [path] at first found
  exact ⟨same, told.1 there missing same, first, found⟩

end CuratedList.Settings
