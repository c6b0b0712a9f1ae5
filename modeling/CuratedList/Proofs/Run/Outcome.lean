import CuratedList.Proofs.Report
import CuratedList.Proofs.Settings.Targets
import CuratedList.Run
import Mathlib.Data.List.Forall2

/-! # What comes of a run

A run goes through five stages, each of which may end it, and writes in the last one alone. So it writes
nothing, or a whole report (`run_reports_all_or_nothing`). The report is about the files that the command
line asks for (`Requested`), in their order, each checked from its own content and all by one linter
(`linterOf`), and what is written has all their diagnostics (`Report.Covers`).

A words file that cannot be read ends no run: the run is the same as without that file.
-/

namespace CuratedList
set_option autoImplicit false

namespace Run

/-! ## What a run is asked for -/

/-- The files that a command line asks for under the settings: the ones it names, or else the ones that
the patterns of the settings stand for. -/
inductive Requested (files : Files Id) (options : Options) (settings : Settings) : List String → Prop
  | named (given : options.files ≠ []) : Requested files options settings options.files
  | configured {paths : List String} (absent : options.files = [])
      (found : (settings.targets files "").1 = .ok paths) : Requested files options settings paths

/-- Only patterns can stand for no files at all. -/
theorem Requested.of_nil {files : Files Id} {options : Options} {settings : Settings}
    {paths : List String} (requested : Requested files options settings paths) (empty : paths = []) :
    options.files = [] ∧ (settings.targets files "").1 = .ok [] := by
  cases requested with
  | named given => exact absurd empty given
  | configured absent found => exact ⟨absent, empty ▸ found⟩

theorem Requested.eq_files {files : Files Id} {options : Options} {settings : Settings} {paths : List String}
    (requested : Requested files options settings paths) (given : options.files ≠ []) : paths = options.files := by
  cases requested with
  | named => rfl
  | configured absent => exact absurd absent given

/-- The words in the words file of the settings, as far as it can be read. -/
def listedWords (files : Files Id) (settings : Settings) : List String :=
  match settings.identifiersFile with
  | none => []
  | some path =>
    match files.readText path with
    | .ok content => Identifiers.wordsOfFile content
    | .error _ => []

/-- The linter of a run. It allows the well-known words, and those of the settings, of the command line
and of the words file. -/
def linterOf (files : Files Id) (options : Options) (settings : Settings) : Linter where
  context := .standard (Identifiers.builtin.extend
    (settings.identifiers ++ options.identifiers ++ listedWords files settings))
  respectContents := settings.respectContents && !options.ignoreContents

/-- A report about a file: what the linter says about its content. -/
structure ReportOn (files : Files Id) (linter : Linter) (path : String) (report : FileReport) :
    Prop where
  names : report.path = path
  content : ∃ text, files.readText path = .ok text ∧ report.diagnostics = linter.lintText text

theorem ReportOn.eq {files : Files Id} {linter : Linter} {path text : String} {report : FileReport}
    (on : ReportOn files linter path report) (read : files.readText path = .ok text) :
    report = ⟨path, linter.lintText text⟩ := by
  obtain ⟨_, _⟩ := report
  obtain ⟨rfl, text', read', rfl⟩ := on
  cases read.symm.trans read'
  rfl

/-! ## The stages -/

section

variable (files : Files Id) (options : Options) (settings : Settings)

theorem paths_eq_ok_iff (paths : List String) :
    (Run.paths files options settings).1 = .ok paths ↔ Requested files options settings paths := by
  cases named : options.files with
  | nil =>
    have stage : Run.paths files options settings = settings.targets files "" := by
      simp only [Run.paths, named, List.isEmpty_nil, if_true]
    rw [stage]
    constructor
    · exact fun found => .configured named found
    · rintro (given | ⟨-, found⟩)
      · exact absurd named given
      · exact found
  | cons file others =>
    have stage : (Run.paths files options settings).1 = .ok options.files := by
      simp only [Run.paths, named, List.isEmpty_cons, Bool.false_eq_true, if_false]
      rfl
    have given : options.files ≠ [] := by simp [named]
    rw [stage]
    constructor
    · intro same
      rw [← Except.ok.inj same]
      exact .named given
    · rintro (_ | ⟨absent, -⟩)
      · rfl
      · exact absurd absent given

theorem paths_eq_error_iff (e : SettingsError) :
    (Run.paths files options settings).1 = .error e ↔
      options.files = [] ∧ (settings.targets files "").1 = .error e := by
  cases named : options.files with
  | nil => simp only [Run.paths, named, List.isEmpty_nil, if_true, true_and]
  | cons file others =>
    have stage : (Run.paths files options settings).1 = .ok options.files := by
      simp only [Run.paths, named, List.isEmpty_cons, Bool.false_eq_true, if_false]
      rfl
    simp [stage]

/-- The words of the words file come last; if it cannot be read, it adds none. -/
theorem identifiers_fst (extra : List String) :
    (identifiers files settings extra).1 = Identifiers.builtin.extend
      (settings.identifiers ++ extra ++ listedWords files settings) := by
  have more (ids : Identifiers) (ws vs : List String) :
      ids.extend (ws ++ vs) = (ids.extend ws).extend vs := List.foldl_append
  rw [more]
  unfold identifiers listedWords
  cases settings.identifiersFile with
  | none => rfl
  | some path =>
    simp only [Identifiers.extendFromFile, Files.readOrReport, bind]
    cases files.readText path <;> rfl

theorem lintFile_eq (linter : Linter) (path : String) :
    linter.lintFile files path =
      match files.readText path with
      | .ok text => .ok (linter.lintText text)
      | .error cause => .error ⟨path, cause⟩ := by
  simp only [Linter.lintFile, Files.readOrReport, bind]
  cases files.readText path <;> rfl

theorem reports_cons (linter : Linter) (path : String) (paths : List String) :
    reports files linter (path :: paths) =
      match files.readText path with
      | .error cause => .error ⟨path, cause⟩
      | .ok text =>
        match reports files linter paths with
        | .error u => .error u
        | .ok rest => .ok (⟨path, linter.lintText text⟩ :: rest) := by
  simp only [reports, lintFile_eq, bind]
  cases files.readText path with
  | error cause => rfl
  | ok text => cases reports files linter paths <;> rfl

/-- The loop comes to its end with a report on each file. -/
theorem reports_eq_ok_iff (linter : Linter) (paths : List String) (rs : List FileReport) :
    reports files linter paths = .ok rs ↔ List.Forall₂ (ReportOn files linter) paths rs := by
  induction paths generalizing rs with
  | nil =>
    have done : reports files linter [] = .ok [] := rfl
    rw [done, Except.ok.injEq, List.forall₂_nil_left_iff]
    exact eq_comm
  | cons path paths ih =>
    rw [reports_cons, List.forall₂_cons_left_iff]
    cases content : files.readText path with
    | error cause =>
      simp only [reduceCtorEq, false_iff]
      rintro ⟨r, rest, ⟨-, text, found, -⟩, -⟩
      cases content.symm.trans found
    | ok text =>
      simp only [← ih]
      constructor
      · intro h
        cases later : reports files linter paths with
        | error u => simp [later] at h
        | ok rest =>
          rw [later] at h
          exact ⟨_, rest, ⟨rfl, text, content, rfl⟩, rfl, (Except.ok.inj h).symm⟩
      · rintro ⟨⟨_, _⟩, rest, ⟨rfl, text', found, rfl⟩, later, rfl⟩
        cases content.symm.trans found
        rw [later]

/-- The loop ends early at the first file that cannot be read. -/
theorem reports_eq_error_iff (linter : Linter) (paths : List String) (u : Unreadable) :
    reports files linter paths = .error u ↔ FirstFailure files.readText paths u.path u.cause := by
  induction paths with
  | nil =>
    have done : reports files linter [] = .ok [] := rfl
    simp [done, FirstFailure.not_nil]
  | cons path paths ih =>
    rw [reports_cons]
    cases content : files.readText path with
    | error cause =>
      rw [FirstFailure.cons_of_error content, Except.error.injEq]
      constructor
      · rintro rfl
        exact ⟨rfl, rfl⟩
      · rintro ⟨rfl, rfl⟩
        rfl
    | ok text =>
      rw [FirstFailure.cons_of_ok content, ← ih]
      cases reports files linter paths <;> simp

/-- The last stage writes its report whole, or fails before it writes. -/
theorem check_ends (paths : List String) :
    ((check files options settings paths).result, (check files options settings paths).written) =
      match reports files (linterOf files options settings) paths with
      | .error u => (.error (.document u), "")
      | .ok rs =>
        (.ok (Report.problemCount rs), Report.render (options.format.getD .text) rs) := by
  have allowed := identifiers_fst files settings options.identifiers
  rw [linterOf, ← allowed, check]
  rcases identifiers files settings options.identifiers with ⟨ids, ignored⟩
  simp only [bind]
  cases reports files _ paths <;> rfl

end

/-! ## The ends of a run -/

/-- How a run can end: its result, and what it has written. -/
inductive Ends (files : Files Id) (env : Environment Id) (options : Options) :
    Except RunError Nat → String → Prop
  | undiscovered {e : SettingsError}
      (failed : Settings.discover files env "" options.config = .error e) :
      Ends files env options (.error (.settings e)) ""
  | badPattern {settings : Settings} {e : SettingsError}
      (discovered : Settings.discover files env "" options.config = .ok settings)
      (absent : options.files = []) (failed : (settings.targets files "").1 = .error e) :
      Ends files env options (.error (.targets e)) ""
  | noFiles {settings : Settings}
      (discovered : Settings.discover files env "" options.config = .ok settings)
      (requested : Requested files options settings []) :
      Ends files env options (.error .noFiles) ""
  | unreadable {settings : Settings} {paths : List String} {u : Unreadable}
      (discovered : Settings.discover files env "" options.config = .ok settings)
      (requested : Requested files options settings paths)
      (first : FirstFailure files.readText paths u.path u.cause) :
      Ends files env options (.error (.document u)) ""
  | finished {settings : Settings} {paths : List String} {reports : List FileReport}
      (discovered : Settings.discover files env "" options.config = .ok settings)
      (requested : Requested files options settings paths) (nonempty : paths ≠ [])
      (each : List.Forall₂ (ReportOn files (linterOf files options settings)) paths reports) :
      Ends files env options (.ok (Report.problemCount reports))
        (Report.render (options.format.getD .text) reports)

section

variable (files : Files Id) (env : Environment Id) (options : Options)

theorem run_of_undiscovered {e : SettingsError}
    (failed : Settings.discover files env "" options.config = .error e) :
    run files env options = { result := .error (.settings e) } := by
  rw [run, failed]
  rfl

theorem run_of_discovered {settings : Settings}
    (discovered : Settings.discover files env "" options.config = .ok settings) :
    ((run files env options).result, (run files env options).written) =
      match (Run.paths files options settings).1 with
      | .error e => (.error (.targets e), "")
      | .ok [] => (.error .noFiles, "")
      | .ok (path :: paths) =>
        ((check files options settings (path :: paths)).result,
          (check files options settings (path :: paths)).written) := by
  rw [run, discovered]
  simp only [bind]
  rcases (Run.paths files options settings) with ⟨e | _ | ⟨path, paths⟩, skipped⟩ <;> rfl

/-- Every run ends in one of these ways. -/
theorem run_ends : Ends files env options (run files env options).result
    (run files env options).written := by
  cases discovered : Settings.discover files env "" options.config with
  | error e =>
    rw [run_of_undiscovered files env options discovered]
    exact .undiscovered discovered
  | ok settings =>
    have told := run_of_discovered files env options discovered
    cases stage : (Run.paths files options settings).1 with
    | error e =>
      obtain ⟨absent, failed⟩ := (paths_eq_error_iff ..).1 stage
      rw [stage, Prod.mk.injEq] at told
      rw [told.1, told.2]
      exact .badPattern discovered absent failed
    | ok paths =>
      have requested := (paths_eq_ok_iff ..).1 stage
      cases paths with
      | nil =>
        rw [stage, Prod.mk.injEq] at told
        rw [told.1, told.2]
        exact .noFiles discovered requested
      | cons path paths =>
        simp only [stage, check_ends] at told
        cases each : reports files (linterOf files options settings) (path :: paths) with
        | error u =>
          rw [each, Prod.mk.injEq] at told
          rw [told.1, told.2]
          exact .unreadable discovered requested ((reports_eq_error_iff ..).1 each)
        | ok rs =>
          rw [each, Prod.mk.injEq] at told
          rw [told.1, told.2]
          exact .finished discovered requested (List.cons_ne_nil _ _) ((reports_eq_ok_iff ..).1 each)

end

/-- No run ends in two of these ways. -/
theorem Ends.eq {files : Files Id} {env : Environment Id} {options : Options}
    {result : Except RunError Nat} {written : String} (h : Ends files env options result written) :
    (run files env options).result = result ∧ (run files env options).written = written := by
  cases h with
  | undiscovered failed =>
    rw [run_of_undiscovered files env options failed]
    exact ⟨rfl, rfl⟩
  | badPattern discovered absent failed =>
    have told := run_of_discovered files env options discovered
    rwa [(paths_eq_error_iff ..).2 ⟨absent, failed⟩, Prod.mk.injEq] at told
  | noFiles discovered requested =>
    have told := run_of_discovered files env options discovered
    rwa [(paths_eq_ok_iff ..).2 requested, Prod.mk.injEq] at told
  | @unreadable settings paths u discovered requested first =>
    have told := run_of_discovered files env options discovered
    have each := (reports_eq_error_iff _ (linterOf files options settings) ..).2 first
    cases paths with
    | nil => exact absurd first FirstFailure.not_nil
    | cons path paths =>
      simp only [(paths_eq_ok_iff ..).2 requested, check_ends, each, Prod.mk.injEq] at told
      exact told
  | @finished settings paths reports discovered requested nonempty each =>
    have told := run_of_discovered files env options discovered
    have each := (reports_eq_ok_iff ..).2 each
    cases paths with
    | nil => exact absurd rfl nonempty
    | cons path paths =>
      simp only [(paths_eq_ok_iff ..).2 requested, check_ends, each, Prod.mk.injEq] at told
      exact told

section

variable {files : Files Id} {env : Environment Id} {options : Options}

theorem exists_ends {result : Except RunError Nat} (ended : (run files env options).result = result) :
    ∃ written, (run files env options).written = written ∧ Ends files env options result written :=
  ⟨_, rfl, ended ▸ run_ends files env options⟩

theorem written_of_error {e : RunError} (failed : (run files env options).result = .error e) :
    (run files env options).written = "" := by
  obtain ⟨written, same, ends⟩ := exists_ends failed
  rw [same]
  cases ends with
  | undiscovered => rfl
  | badPattern => rfl
  | noFiles => rfl
  | unreadable => rfl

/-- A run fails over a document exactly if it is the first one that cannot be read. -/
theorem result_eq_document_iff (u : Unreadable) :
    (run files env options).result = .error (.document u) ↔ ∃ settings paths,
      Settings.discover files env "" options.config = .ok settings ∧
      Requested files options settings paths ∧
      FirstFailure files.readText paths u.path u.cause := by
  constructor
  · intro failed
    obtain ⟨written, -, ends⟩ := exists_ends failed
    cases ends with
    | unreadable discovered requested first => exact ⟨_, _, discovered, requested, first⟩
  · rintro ⟨settings, paths, discovered, requested, first⟩
    exact (Ends.unreadable discovered requested first).eq.1

/-- A run fails exactly if there are no settings, if no file is named and the patterns of the settings are
wrong or stand for none, or if a file cannot be read. -/
theorem fails_iff :
    (∃ e, (run files env options).result = .error e) ↔
      (∃ e, Settings.discover files env "" options.config = .error e) ∨
      ∃ settings, Settings.discover files env "" options.config = .ok settings ∧
        (options.files = [] ∧ (∃ pattern ∈ settings.files, ∃ cause,
            PathPattern.ofText pattern = .error cause) ∨
          options.files = [] ∧ (settings.targets files "").1 = .ok [] ∨
          ∃ paths, Requested files options settings paths ∧
            ∃ path ∈ paths, ∃ cause, files.readText path = .error cause) := by
  simp only [← Settings.patternIn_empty, ← Settings.exists_targets_eq_error_iff files]
  constructor
  · rintro ⟨e, failed⟩
    obtain ⟨written, -, ends⟩ := exists_ends failed
    cases ends with
    | undiscovered unset => exact .inl ⟨_, unset⟩
    | badPattern discovered absent bad => exact .inr ⟨_, discovered, .inl ⟨absent, _, bad⟩⟩
    | noFiles discovered requested =>
      exact .inr ⟨_, discovered, .inr (.inl (requested.of_nil rfl))⟩
    | unreadable discovered requested first =>
      have fails := (FirstFailure.exists_iff _).1 ⟨_, _, first⟩
      exact .inr ⟨_, discovered, .inr (.inr ⟨_, requested, fails⟩)⟩
  · rintro (⟨e, unset⟩ | ⟨settings, discovered, stopped⟩)
    · exact ⟨_, (Ends.undiscovered unset).eq.1⟩
    · obtain ⟨absent, e, bad⟩ | ⟨absent, found⟩ | ⟨paths, requested, fails⟩ := stopped
      · exact ⟨_, (Ends.badPattern discovered absent bad).eq.1⟩
      · exact ⟨_, (Ends.noFiles discovered (.configured absent found)).eq.1⟩
      · obtain ⟨path, cause, first⟩ := (FirstFailure.exists_iff _).2 fails
        have first : FirstFailure files.readText paths (Unreadable.mk path cause).path cause := first
        exact ⟨_, (Ends.unreadable discovered requested first).eq.1⟩

end

theorem listedWords_of_unreadable {files : Files Id} {settings : Settings} {path : String}
    {cause : FileError} (wordsFile : settings.identifiersFile = some path)
    (unreadable : files.readText path = .error cause) : listedWords files settings = [] := by
  simp only [listedWords, wordsFile, unreadable]

/-- A words file that cannot be read makes no difference to the linter. -/
theorem linterOf_of_unreadable {files : Files Id} {settings : Settings} {path : String}
    {cause : FileError} (options : Options) (wordsFile : settings.identifiersFile = some path)
    (unreadable : files.readText path = .error cause) :
    linterOf files options settings =
      linterOf files options { settings with identifiersFile := none } := by
  have noWords : listedWords files { settings with identifiersFile := none } = [] := rfl
  rw [linterOf, linterOf, listedWords_of_unreadable wordsFile unreadable, noWords]

/-- A run fails and writes nothing, or it succeeds and writes one report, which covers the files that are asked for
and has as many diagnostics as the run says. It fails exactly if there are no settings, no files, or an unreadable
file among them. A words file that cannot be read makes no difference to it. -/
theorem run_reports_all_or_nothing (files : Files Id) (env : Environment Id) (options : Options) :
    (∀ e, (run files env options).result = .error e → (run files env options).written = "") ∧
    (∀ n, (run files env options).result = .ok n → ∃ settings paths reports,
      Settings.discover files env "" options.config = .ok settings ∧
      Requested files options settings paths ∧
      List.Forall₂ (ReportOn files (linterOf files options settings)) paths reports ∧
      Report.Covers reports (options.format.getD .text) (run files env options).written ∧
      n = (reports.map fun r => r.diagnostics.length).sum) ∧
    ((∃ e, (run files env options).result = .error e) ↔
      (∃ e, Settings.discover files env "" options.config = .error e) ∨
      ∃ settings, Settings.discover files env "" options.config = .ok settings ∧
        (options.files = [] ∧ (∃ pattern ∈ settings.files, ∃ cause,
            PathPattern.ofText pattern = .error cause) ∨
          options.files = [] ∧ (settings.targets files "").1 = .ok [] ∨
          ∃ paths, Requested files options settings paths ∧
            ∃ path ∈ paths, ∃ cause, files.readText path = .error cause)) ∧
    (∀ u, (run files env options).result = .error (.document u) ↔ ∃ settings paths,
      Settings.discover files env "" options.config = .ok settings ∧
      Requested files options settings paths ∧
      FirstFailure files.readText paths u.path u.cause) ∧
    (∀ settings path cause, settings.identifiersFile = some path →
      files.readText path = .error cause → ∀ paths,
      (check files options settings paths).result =
        (check files options { settings with identifiersFile := none } paths).result ∧
      (check files options settings paths).written =
        (check files options { settings with identifiersFile := none } paths).written) := by
  refine ⟨fun _ => written_of_error, ?reported, fails_iff, result_eq_document_iff, ?words⟩
  case reported =>
    intro n succeeded
    obtain ⟨written, same, ends⟩ := exists_ends succeeded
    rw [same]
    cases ends with
    | @finished settings paths reports discovered requested _ each =>
      exact ⟨settings, paths, reports, discovered, requested, each, Report.covers_render _ _,
        Report.problemCount_eq_sum _⟩
  case words =>
    intro settings path cause wordsFile unreadable paths
    have listed := check_ends files options settings paths
    have without := check_ends files options { settings with identifiersFile := none } paths
    rw [linterOf_of_unreadable options wordsFile unreadable, ← without, Prod.mk.injEq] at listed
    exact listed

/-- Two files, of which the first one has an entry without content. -/
def twoDocuments : Files Id where
  kind? _ := none
  read path :=
    if path = "a.md" then .ok "-\n".toUTF8 else if path = "b.md" then .ok "".toUTF8 else .error .notFound
  entries _ := .error .notFound
  depth := 0

/-- A run over both files, the first one twice, writes its diagnostic twice. A run over a file that is there and
one that is not writes nothing. -/
theorem run_reports_all_or_nothing_repeated :
    let files := twoDocuments
    let env : Environment Id := { home? := none, valueOf? := fun _ => none }
    let whole : Options := { files := ["a.md", "b.md", "a.md"] }
    let broken : Options := { files := ["a.md", "c.md"] }
    ((run files env whole).result = .ok 2 ∧ (run files env whole).written =
      "a.md:1:1: Invalid list item\na.md:1:1: Invalid list item\n2 problem(s) in 2 of 3 file(s)\n") ∧
    (run files env broken).result = .error (.document ⟨"c.md", .notFound⟩) ∧
      (run files env broken).written = "" := by
  intro files env whole broken
  have settled : Settings.discover files env "" none = .ok { } := rfl
  have first : files.readText "a.md" = .ok "-\n" := rfl
  have second : files.readText "b.md" = .ok "" := rfl
  constructor
  · obtain ⟨-, reported, fails, -⟩ := run_reports_all_or_nothing files env whole
    cases ended : (run files env whole).result with
    | error e =>
      obtain ⟨_, unset⟩ | ⟨settings, -, stopped⟩ := fails.1 ⟨e, ended⟩
      · cases settled.symm.trans unset
      · obtain ⟨⟨⟩, -⟩ | ⟨⟨⟩, -⟩ | ⟨paths, requested, path, member, cause, unreadable⟩ := stopped
        rw [requested.eq_files (List.cons_ne_nil _ _)] at member
        obtain rfl | rfl : path = "a.md" ∨ path = "b.md" := by simpa [whole, or_comm] using member
        · cases first.symm.trans unreadable
        · cases second.symm.trans unreadable
    | ok n =>
      obtain ⟨settings, paths, reports, discovered, requested, each, covers, counted⟩ := reported n ended
      cases settled.symm.trans discovered
      have bare : (linterOf files whole { }).lintText "-\n" =
          [⟨.invalidEntry, "Invalid list item", ⟨0, 2⟩, ⟨1, 1⟩⟩] := by decide +kernel
      have empty : (linterOf files whole { }).lintText "" = [] := by decide +kernel
      rw [requested.eq_files (List.cons_ne_nil _ _)] at each
      simp only [whole, List.forall₂_cons_left_iff, List.forall₂_nil_left_iff] at each
      obtain ⟨_, _, one, ⟨_, _, two, ⟨_, _, three, rfl, rfl⟩, rfl⟩, rfl⟩ := each
      cases one.eq first
      cases two.eq second
      cases three.eq first
      rw [bare, empty] at covers counted
      refine ⟨congrArg _ counted, ?_⟩
      change Report.Covers _ .text _ at covers
      generalize (run files env whole).written = written at covers ⊢
      cases covers with
      | clean none => exact absurd (none _ List.mem_cons_self) (List.cons_ne_nil _ _)
      | problems some counted failed =>
        rw [counted, failed]
        decide +kernel
  · obtain ⟨silent, -, -, document, -⟩ := run_reports_all_or_nothing files env broken
    have missing : FirstFailure files.readText ["a.md", "c.md"] "c.md" .notFound :=
      ⟨["a.md"], [], rfl, by simpa using ⟨_, first⟩, rfl⟩
    have failed := (document ⟨"c.md", .notFound⟩).2
      ⟨{ }, broken.files, settled, .named (List.cons_ne_nil _ _), missing⟩
    exact ⟨failed, silent _ failed⟩

end Run
end CuratedList
