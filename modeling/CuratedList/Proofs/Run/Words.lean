import CuratedList.Proofs.Identifiers
import CuratedList.Proofs.Run.Outcome
import CuratedList.Proofs.Settings.Discovery
import CuratedList.Proofs.Settings.RoundTrip

/-! # Where the words of a run come from

A run allows the well-known words, and those of the settings, of the command line and of the words file. Only
which words these are counts, and not where they stand (`Spread`): two runs with the same words and the same
task give the same (`word_sources_do_not_matter`).
-/

namespace CuratedList
set_option autoImplicit false

/-! ## Unreadable files -/

namespace Files

variable {files : Files Id} {path : String}

/-- A file is unreadable as a text: it cannot be read at all, or it is not UTF-8. -/
inductive NoText (files : Files Id) (path : String) : Prop
  | unreadable {cause : FileError} (failed : files.read path = .error cause)
  | notUtf8 {bytes : ByteArray} (read : files.read path = .ok bytes) (wrong : String.fromUTF8? bytes = none)

theorem NoText.exists_error (unreadable : NoText files path) :
    ∃ cause, files.readText path = .error cause := by
  rw [readText]
  cases unreadable with
  | @unreadable cause failed =>
    rw [failed]
    exact ⟨cause, rfl⟩
  | notUtf8 read wrong =>
    rw [read]
    simp only [bind, wrong]
    exact ⟨_, rfl⟩

end Files

namespace Run

/-! ## Words from three places -/

/-- The words file of the settings lists these words; there are none if the settings have no such file. -/
inductive FileLists (files : Files Id) (settings : Settings) : List String → Prop
  | noFile (absent : settings.identifiersFile = none) : FileLists files settings []
  | file {path content : String} {ws : List String} (named : settings.identifiersFile = some path)
      (read : files.readText path = .ok content)
      (written : Identifiers.Written content.toList ws) : FileLists files settings ws

/-- The words are those of the settings, of the command line (`extra`) and of the words file together. Their
order does not count, nor how often and where each of them stands. -/
def Spread (files : Files Id) (settings : Settings) (extra words : List String) : Prop :=
  ∃ listed, FileLists files settings listed ∧
    ∀ w, w ∈ settings.identifiers ++ extra ++ listed ↔ w ∈ words

section

variable {files : Files Id} {settings : Settings} {extra words : List String}

theorem FileLists.listedWords_eq {ws : List String} (lists : FileLists files settings ws) :
    listedWords files settings = ws := by
  cases lists with
  | noFile absent => rw [listedWords, absent]
  | file named read written =>
    rw [listedWords, named]
    simp only [read]
    exact written.wordsOfFile_eq

theorem Spread.mem_iff (spread : Spread files settings extra words) (w : String) :
    w ∈ settings.identifiers ++ extra ++ listedWords files settings ↔ w ∈ words := by
  obtain ⟨listed, lists, same⟩ := spread
  rw [lists.listedWords_eq]
  exact same w

/-- A run allows the well-known words and the spread ones. -/
theorem Spread.contains_iff (spread : Spread files settings extra words) (w : String) :
    (identifiers files settings extra).1.contains w = true ↔
      w ∈ Identifiers.builtin.words ∨ w ∈ words := by
  rw [identifiers_fst, Identifiers.contains_iff_mem, Identifiers.mem_extend, spread.mem_iff]

theorem Spread.size_eq (spread : Spread files settings extra words) :
    (identifiers files settings extra).1.size = (Identifiers.builtin.words ++ words).toFinset.card := by
  rw [identifiers_fst, Identifiers.size_extend_congr spread.mem_iff]

end

theorem identifiers_of_unreadable {files : Files Id} {settings : Settings} {path : String}
    {cause : FileError} (extra : List String) (named : settings.identifiersFile = some path)
    (failed : files.readText path = .error cause) :
    (identifiers files settings extra).1 =
      (identifiers files { settings with identifiersFile := none } extra).1 := by
  rw [identifiers_fst, identifiers_fst, listedWords_of_unreadable named failed]
  rfl

/-! ## Two runs -/

/-- Two runs have the same task: the same lists and documents to check, and the same form of report. -/
structure SameTask (f g : Files Id) (o p : Options) (s t : Settings) : Prop where
  contents : (s.respectContents && !o.ignoreContents) = (t.respectContents && !p.ignoreContents)
  format : o.format = p.format
  paths : (Run.paths f o s).1 = (Run.paths g p t).1
  texts : ∀ paths, (Run.paths f o s).1 = .ok paths → ∀ path ∈ paths, f.readText path = g.readText path

/-- Only which words are allowed counts for the standard judgements. -/
theorem standard_extend_congr {ids : Identifiers} {ws vs : List String} (same : ∀ w, w ∈ ws ↔ w ∈ vs) :
    Context.standard (ids.extend ws) = Context.standard (ids.extend vs) := by
  have allowed : (ids.extend ws).contains = (ids.extend vs).contains := funext fun w => by
    rw [Bool.eq_iff_iff, Identifiers.contains_iff_mem, Identifiers.contains_iff_mem,
      Identifiers.mem_extend, Identifiers.mem_extend, same]
  rw [Context.standard, allowed, Context.standard]

theorem linterOf_congr {f g : Files Id} {o p : Options} {s t : Settings} {words : List String}
    (here : Spread f s o.identifiers words) (there : Spread g t p.identifiers words)
    (contents : (s.respectContents && !o.ignoreContents) = (t.respectContents && !p.ignoreContents)) :
    linterOf f o s = linterOf g p t := by
  rw [linterOf, linterOf, contents,
    standard_extend_congr fun w => (here.mem_iff w).trans (there.mem_iff w).symm]

theorem reports_congr {f g : Files Id} (linter : Linter) {paths : List String}
    (texts : ∀ path ∈ paths, f.readText path = g.readText path) :
    reports f linter paths = reports g linter paths := by
  induction paths with
  | nil => rfl
  | cons path paths ih =>
    obtain ⟨here, later⟩ := List.forall_mem_cons.1 texts
    rw [reports_cons, reports_cons, here, ih later]

/-- Two runs with the same words and the same task give the same. -/
theorem run_congr {f g : Files Id} {env env' : Environment Id} {o p : Options} {s t : Settings}
    {words : List String} (settled : Settings.discover f env "" o.config = .ok s)
    (settled' : Settings.discover g env' "" p.config = .ok t) (here : Spread f s o.identifiers words)
    (there : Spread g t p.identifiers words) (same : SameTask f g o p s t) :
    ((run f env o).result, (run f env o).written) = ((run g env' p).result, (run g env' p).written) := by
  -- up to the paths both runs are alike; after them only the linter and the documents count
  rw [run_of_discovered f env o settled, run_of_discovered g env' p settled', ← same.paths]
  cases found : (Run.paths f o s).1 with
  | error e => rfl
  | ok paths =>
    cases paths with
    | nil => rfl
    | cons path paths =>
      simp only [check_ends]
      rw [linterOf_congr here there same.contents, reports_congr _ (same.texts _ found), same.format]

/-- It does not matter where the words of a run come from. A run allows the well-known words and the spread ones,
and counts each once. Two runs with the same words and the same task find the same and write the same. A words
file that cannot be read as a text is as good as none. -/
theorem word_sources_do_not_matter :
    (∀ (files : Files Id) (settings : Settings) (extra words : List String),
      Spread files settings extra words →
      (∀ w, (identifiers files settings extra).1.contains w = true ↔
        w ∈ Identifiers.builtin.words ∨ w ∈ words) ∧
      (identifiers files settings extra).1.size = (Identifiers.builtin.words ++ words).toFinset.card) ∧
    (∀ (f g : Files Id) (env env' : Environment Id) (o p : Options) (s t : Settings) (words : List String),
      Settings.discover f env "" o.config = .ok s → Settings.discover g env' "" p.config = .ok t →
      Spread f s o.identifiers words → Spread g t p.identifiers words → SameTask f g o p s t →
      (run f env o).result = (run g env' p).result ∧ (run f env o).written = (run g env' p).written) ∧
    ∀ (files : Files Id) (settings : Settings) (extra : List String) (path : String),
      settings.identifiersFile = some path → files.NoText path →
      (identifiers files settings extra).1 =
        (identifiers files { settings with identifiersFile := none } extra).1 := by
  refine ⟨?allowed, ?runs, ?unreadable⟩
  case allowed => exact fun _ _ _ _ spread => ⟨spread.contains_iff, spread.size_eq⟩
  case runs =>
    intro f g env env' o p s t words settled settled' here there same
    exact Prod.mk.inj (run_congr settled settled' here there same)
  case unreadable =>
    intro files settings extra path named unreadable
    obtain ⟨cause, failed⟩ := unreadable.exists_error
    exact identifiers_of_unreadable extra named failed

/-- One run gets both of its words from the command line. The other one gets them from the settings and from a
words file with a comment, and repeats one of them. -/
theorem word_sources_do_not_matter_flags_or_file :
    let here : Files Id := {
      kind? := fun _ => none
      read := fun path => if path = "a.md" then .ok "- [x](/x) - fooBar for y.".toUTF8 else .error .notFound
      entries := fun _ => .error .notFound
      depth := 0 }
    let settings : Settings := { identifiers := ["bazQux"], identifiersFile := some "words.txt" }
    let there : Files Id := {
      here with
      kind? := fun path => if path = ".entrylint.toml" then some .file else none
      read := fun path =>
        if path = ".entrylint.toml" then .ok settings.toToml.toUTF8
        else if path = "words.txt" then .ok "# Words\r\n  fooBar\t# y".toUTF8 else here.read path }
    let env : Environment Id := ⟨some "/home/user", fun _ => none⟩
    let flags : Options := { files := ["a.md"], identifiers := ["fooBar", "bazQux"] }
    let file : Options := { files := ["a.md"], identifiers := ["bazQux"] }
    (identifiers there settings file.identifiers).1.contains "fooBar" = true ∧
      (run here env flags).result = (run there env file).result ∧
      (run here env flags).written = (run there env file).written ∧
      (identifiers here settings []).1 = (identifiers here { settings with identifiersFile := none } []).1 := by
  intro here settings there env flags file
  have first : Settings.discover here env "" flags.config = .ok { } := rfl
  have second : Settings.discover there env "" file.config = .ok settings := by
    have name : Settings.projectPath "" = ".entrylint.toml" := by decide
    have present : there.pathExists (Settings.projectPath "") = true := by rw [name]; rfl
    have read : there.readText (Settings.projectPath "") = .ok settings.toToml :=
      Files.readText_of_toUTF8 (by rw [name]; rfl)
    have found : Settings.discover there env "" none = .ok (settings.expanded env) :=
      (Settings.Decides.project present).discover_eq (.settings read (Settings.ofToml?_toToml settings))
    have kept : env.expand? "words.txt" = some "words.txt" := env.expand?_of_plain (by decide) (by decide)
    rw [Settings.expanded_eq, Option.map_some, kept] at found
    exact found
  have written : Identifiers.Written "# Words\r\n  fooBar\t# y".toList ["fooBar"] := by
    have comment : Identifiers.Lists "# Words".toList [] :=
      @Identifiers.Lists.nothing [] "# Words".toList (List.forall_mem_nil _) (.text (by decide))
    have word : Identifiers.Lists "  fooBar\t# y".toList ["fooBar"] :=
      @Identifiers.Lists.word "  ".toList "fooBar".toList "\t".toList "# y".toList
        (by decide) ⟨by decide, by decide, by decide, by decide⟩ (by decide) (.text (by decide))
    exact .line comment (.inr rfl) (.last word)
  have flagged : Spread here { } flags.identifiers ["fooBar", "bazQux"] :=
    ⟨[], .noFile rfl, by simp [flags]⟩
  have filed : Spread there settings file.identifiers ["fooBar", "bazQux"] :=
    ⟨["fooBar"], .file rfl (Files.readText_of_toUTF8 rfl) written, by simp [settings, file, or_comm]⟩
  have same : SameTask here there flags file { } settings := {
    contents := rfl
    format := rfl
    paths := rfl
    texts := by
      intro paths found path member
      cases found
      cases List.mem_singleton.1 member
      rfl }
  obtain ⟨allowed, runs, unreadable⟩ := word_sources_do_not_matter
  obtain ⟨result, report⟩ := runs here there env env flags file { } settings _ first second flagged filed same
  exact ⟨((allowed there settings _ _ filed).1 "fooBar").2 (.inr (by decide)), result, report,
    unreadable here settings [] "words.txt" rfl (.unreadable rfl)⟩

end Run
end CuratedList
