import CuratedList.Proofs.Json.Tokens

/-! # What the reports say

What is written covers the reports in the form that is asked for (`covers_render`). Both forms say the same about
the same diagnostics, in the order of the files and of the diagnostics in them (`formats_tell_same`). A reader of
JSON gets back from the JSON form all that it says, whatever characters the paths and messages have.
-/

namespace CuratedList.Report
set_option autoImplicit false

open Json (Reads Token)

/-! ## Layout of JSON -/

/-- No name or number goes on in this text. -/
def EndsWord (rest : List Char) : Prop := ∀ c ∈ rest.head?, Json.inWord c = false

theorem endsWord_cons {c : Char} (outside : Json.inWord c = false) (rest : List Char) :
    EndsWord (c :: rest) := by
  rintro d ⟨⟩
  exact outside

/-- Parts that are read as some tokens each, in lines with commas between them, are read as these tokens with
commas between them. -/
theorem reads_lines {parts : List (List Char × List Token)}
    (each : ∀ p ∈ parts, ∀ rest, EndsWord rest → Reads p.1 p.2 rest) {rest : List Char}
    (ends : EndsWord rest) :
    Reads (jsonLines (parts.map Prod.fst)) (Json.separated (parts.map Prod.snd)) rest := by
  induction parts with
  | nil => exact .nil rest
  | cons p parts ih =>
    obtain ⟨here, later⟩ := List.forall_mem_cons.1 each
    cases parts with
    | nil => simpa [jsonLines] using here rest ends
    | cons q parts =>
      -- a number ends at the comma after it
      have first := here ([',', '\n'] ++ (jsonLines ((q :: parts).map Prod.fst) ++ rest))
        (endsWord_cons (by decide) _)
      have read := (first.append (.mark rfl rfl _)).append (ih later)
      have split : Json.separated ((p :: q :: parts).map Prod.snd) =
          p.2 ++ [.comma] ++ Json.separated ((q :: parts).map Prod.snd) := List.intercalate_cons_cons
      rw [split]
      exact read

/-! ## The objects of a report -/

/-- What a report says about a diagnostic: all of it but its span, and the path of its file. -/
structure Told where
  path : String
  kind : ViolationKind
  message : String
  position : Text.Position
  deriving DecidableEq

def told (e : String × Diagnostic) : Told := ⟨e.1, e.2.kind, e.2.message, e.2.position⟩

/-- The members of the object that says it. -/
def Told.members (t : Told) : List (String × Json.Value) :=
  [("path", .atom (.text t.path)), ("kind", .atom (.text t.kind.name)), ("message", .atom (.text t.message)),
    ("line", .atom (.number t.position.line)), ("column", .atom (.number t.position.column))]

/-- The object says all of it. -/
theorem Told.members_injective : Function.Injective members := by
  rintro ⟨path, kind, message, line, column⟩ ⟨path', kind', message', line', column'⟩ same
  simp only [members, List.cons.injEq, Prod.mk.injEq, Json.Value.atom.injEq, Json.Atom.text.injEq,
    Json.Atom.number.injEq, Nat.cast_inj, true_and, and_true] at same
  obtain ⟨rfl, names, rfl, rfl, rfl⟩ := same
  -- a kind is told by its name, and no two kinds have one name
  have kinds := congrArg ViolationKind.ofName? names
  rw [ViolationKind.ofName?_name, ViolationKind.ofName?_name, Option.some.injEq] at kinds
  rw [kinds]

/-- The line of a member, given how its value is written, and its tokens. -/
def memberPart (key : String) (written : List Char) (a : Json.Atom) : List Char × List Token :=
  ("    ".toList ++ jsonString key ++ [':', ' '] ++ written, [.atom (.text key), .colon, .atom a])

def memberParts (path : String) (d : Diagnostic) : List (List Char × List Token) :=
  let text := fun key s => memberPart key (jsonString s) (.text s)
  let natural := fun key (n : Nat) => memberPart key (toString n).toList (.number n)
  [text "path" path, text "kind" d.kind.name, text "message" d.message, natural "line" d.position.line,
    natural "column" d.position.column]

theorem reads_memberPart (key : String) {written : List Char} {a : Json.Atom} {rest : List Char}
    (read : Reads written [.atom a] rest) : Reads (memberPart key written a).1 (memberPart key written a).2 rest := by
  have colon : Reads [':', ' '] [.colon] (written ++ rest) := .mark rfl rfl _
  exact (((Reads.space (by decide) _).append (.text key _)).append colon).append read

theorem reads_memberParts (path : String) (d : Diagnostic) :
    ∀ p ∈ memberParts path d, ∀ rest, EndsWord rest → Reads p.1 p.2 rest := by
  have text (key s : String) (rest : List Char) (_ : EndsWord rest) := reads_memberPart key (.text s rest)
  have natural (key : String) (n : Nat) (rest : List Char) (ends : EndsWord rest) :=
    reads_memberPart key (.natural n ends)
  simp only [memberParts, List.forall_mem_cons]
  exact ⟨text _ _, text _ _, text _ _, natural _ _, natural _ _, nofun⟩

/-- The object of a diagnostic is read as the value with these members. -/
theorem reads_object (path : String) (d : Diagnostic) (rest : List Char) :
    Reads (jsonObject path d) (Json.Value.object (told (path, d)).members).tokens rest := by
  have tokens : (told (path, d)).members.map Json.memberTokens = (memberParts path d).map Prod.snd := by
    simp only [told, Told.members, List.map_cons, List.map_nil, Json.memberTokens, Json.tokens_atom]
    rfl
  have opening (rest : List Char) : Reads ("  ".toList ++ [Char.ofNat 0x7B, '\n']) [.openObject] rest :=
    .append (.space (by decide) _) (.mark rfl rfl rest)
  have closing : Reads ("\n  ".toList ++ [Char.ofNat 0x7D]) [.closeObject] rest :=
    .append (.space (by decide) _) (.mark rfl rfl rest)
  have ends : EndsWord ("\n  ".toList ++ [Char.ofNat 0x7D] ++ rest) := endsWord_cons (by decide) _
  have whole := ((opening _).append (reads_lines (reads_memberParts path d) ends)).append closing
  rw [← List.append_assoc] at whole
  rw [Json.tokens_object, tokens]
  exact whole

def objectParts (entries : List (String × Diagnostic)) : List (List Char × List Token) :=
  entries.map fun e => (jsonObject e.1 e.2, (Json.Value.object (told e).members).tokens)

/-- A JSON report is read as the array of the objects of its diagnostics. -/
theorem read?_json (reports : List FileReport) :
    Json.read? (json reports) = some (.array ((located reports).map fun e => .object (told e).members)) := by
  apply Json.read?_of_reads
  rw [Json.tokens_array, json]
  split
  next none =>
    rw [none]
    exact .append (@Reads.mark '[' [] _ rfl rfl _) (.mark rfl rfl [])
  next =>
    have opening (rest : List Char) : Reads ['[', '\n'] [.openArray] rest := .mark rfl rfl rest
    have closing : Reads ['\n', ']', '\n'] [.closeArray] [] :=
      .append (@Reads.space ['\n'] (by decide) _) (.mark rfl rfl [])
    have each : ∀ p ∈ objectParts (located reports), ∀ rest, EndsWord rest → Reads p.1 p.2 rest :=
      List.forall_mem_map.2 fun e _ rest _ => reads_object e.1 e.2 rest
    have whole := ((opening _).append (reads_lines each (endsWord_cons (by decide) _))).append closing
    rw [String.toList_ofList, List.map_map]
    simpa [objectParts, Function.comp_def] using whole

/-- Two lists of reports with one JSON form have the same diagnostics but for their spans. -/
theorem told_eq_of_json_eq {reports others : List FileReport} (same : json others = json reports) :
    (located others).map told = (located reports).map told := by
  have read := read?_json others
  rw [same, read?_json reports, Option.some.injEq, Json.Value.array.injEq] at read
  have objects (t u : Told) (equal : Json.Value.object t.members = .object u.members) : t = u :=
    Told.members_injective (Json.Value.object.inj equal)
  refine (List.map_inj_right objects).1 ?_
  simpa only [List.map_map, Function.comp_def] using read.symm

/-! ## The summary -/

theorem head?_toList_append {s : String} {c : Char} (first : s.toList.head? = some c) (t : String) :
    (s ++ t).toList.head? = some c := by
  rw [String.toList_append, List.head?_append, first, Option.some_or]

theorem head?_natural (n : Nat) : ∃ c, (toString n).toList.head? = some c ∧ c.isDigit = true := by
  obtain ⟨c, cs, digits⟩ := List.exists_cons_of_ne_nil (Nat.toDigits_ne_nil (n := n) (b := 10))
  refine ⟨c, ?_, Json.isDigit_of_mem_toDigits (n := n) c (by simp [digits])⟩
  rw [Nat.toString_eq_ofList_toDigits, String.toList_ofList, digits, List.head?_cons]

/-- The summaries with and without problems are told apart. -/
theorem summary_ne (problems failing files n : Nat) :
    s!"{problems} problem(s) in {failing} of {files} file(s)\n" ≠ s!"No problems found in {n} file(s)\n" := by
  intro same
  -- one of them starts with a digit, the other one with a letter
  obtain ⟨c, number, digit⟩ := head?_natural problems
  have letter : "No problems found in ".toList.head? = some 'N' := rfl
  have left : (s!"{problems} problem(s) in {failing} of {files} file(s)\n").toList.head? = some c := by
    iterate 5 apply head?_toList_append
    exact number
  have right : (s!"No problems found in {n} file(s)\n").toList.head? = some 'N' := by
    iterate 2 apply head?_toList_append
    exact letter
  rw [same, right] at left
  cases left
  exact absurd digit (by decide)

theorem summary_of_clean {reports : List FileReport} (clean : located reports = []) :
    summary reports = s!"No problems found in {reports.length} file(s)\n" := by
  have none : problemCount reports = 0 := by rw [← length_located, clean, List.length_nil]
  simp only [summary, none, if_true]

theorem summary_of_problems {reports : List FileReport} (problems : located reports ≠ []) :
    let failing := reports.countP fun r => !r.diagnostics.isEmpty
    summary reports =
      s!"{(located reports).length} problem(s) in {failing} of {reports.length} file(s)\n" := by
  have some : problemCount reports ≠ 0 := by
    rw [← length_located]
    exact mt List.length_eq_zero_iff.1 problems
  simp only [summary, some, if_false, length_located, List.countP_eq_length_filter]

theorem summary_clean_iff (reports : List FileReport) :
    (∃ n : Nat, summary reports = s!"No problems found in {n} file(s)\n") ↔ located reports = [] := by
  constructor
  · rintro ⟨n, clean⟩
    by_contra problems
    exact summary_ne _ _ _ n ((summary_of_problems problems).symm.trans clean)
  · exact fun clean => ⟨_, summary_of_clean clean⟩

/-! ## Both forms -/

/-- A text is a report in one of the forms: it has all diagnostics, file by file and each file's in their order. The
JSON form is read as an array with one object for each. The text form has a line for each, and a summary at the end
that counts them and the files. -/
inductive Covers (reports : List FileReport) : ReportFormat → String → Prop
  | json {written : String} (read : Json.read? written = some (.array (reports.flatMap fun r =>
      r.diagnostics.map fun d => .object (told (r.path, d)).members))) : Covers reports .json written
  | clean (none : ∀ r ∈ reports, r.diagnostics = []) :
      Covers reports .text s!"No problems found in {reports.length} file(s)\n"
  | problems {problems failing : Nat} (some : ∃ r ∈ reports, r.diagnostics ≠ [])
      (counted : problems = (reports.map fun r => r.diagnostics.length).sum)
      (failed : failing = reports.countP fun r => !r.diagnostics.isEmpty) :
      Covers reports .text (String.join (reports.flatMap fun r => r.diagnostics.map fun d =>
          s!"{r.path}:{d.position.line}:{d.position.column}: {d.message}\n") ++
        s!"{problems} problem(s) in {failing} of {reports.length} file(s)\n")

theorem located_eq_nil_iff (reports : List FileReport) :
    located reports = [] ↔ ∀ r ∈ reports, r.diagnostics = [] := by
  simp only [located, List.flatMap_eq_nil_iff, List.map_eq_nil_iff]

theorem problemCount_eq_sum (reports : List FileReport) :
    problemCount reports = (reports.map fun r => r.diagnostics.length).sum := by
  rw [← length_located, located, List.length_flatMap]
  simp only [List.length_map]

/-- What is written is a report in the form that is asked for. -/
theorem covers_render (format : ReportFormat) (reports : List FileReport) :
    Covers reports format (render format reports) := by
  cases format with
  | json =>
    refine .json ((read?_json reports).trans ?_)
    simp only [located, List.map_flatMap, List.map_map, Function.comp_def]
  | text =>
    have lines : (located reports).map (fun e => textLine e.1 e.2) =
        reports.flatMap fun r => r.diagnostics.map (textLine r.path) := by
      simp only [located, List.map_flatMap, List.map_map, Function.comp_def]
    change Covers reports .text (text reports)
    by_cases none : located reports = []
    · rw [text, summary_of_clean none, none]
      exact .clean ((located_eq_nil_iff reports).1 none)
    · have some : ∃ r ∈ reports, r.diagnostics ≠ [] := by simpa [located_eq_nil_iff] using none
      rw [text, lines, summary_of_problems none, length_located]
      exact .problems some (problemCount_eq_sum reports) rfl

/-- Both forms of a report have the same diagnostics, file by file and each file's in their order. The JSON form is
read as an array with one object for each, and loses nothing but the spans. The text form has a line for each and
a summary, whose numbers are those of the diagnostics and of the files with any, and which says that there are no
problems exactly if there are none. -/
theorem formats_tell_same (reports : List FileReport) :
    let entries := reports.flatMap fun r => r.diagnostics.map fun d => (r.path, d)
    let failing := reports.countP fun r => !r.diagnostics.isEmpty
    Json.read? (render .json reports) = some (.array (entries.map fun e => .object (told e).members)) ∧
    (∀ others, render .json others = render .json reports →
      (located others).map told = entries.map told) ∧
    (∃ last, render .text reports = String.join (entries.map fun (path, d) =>
        s!"{path}:{d.position.line}:{d.position.column}: {d.message}\n") ++ last ∧
      (entries = [] → last = s!"No problems found in {reports.length} file(s)\n") ∧
      (entries ≠ [] →
        last = s!"{entries.length} problem(s) in {failing} of {reports.length} file(s)\n") ∧
      ((∃ n : Nat, last = s!"No problems found in {n} file(s)\n") ↔ entries = [])) ∧
    problemCount reports = entries.length := by
  intro entries failing
  have listed : located reports = entries := rfl
  refine ⟨?array, ?lossless, ⟨summary reports, rfl, ?clean, ?problems, ?told_apart⟩, ?count⟩
  case array => exact read?_json reports
  case lossless => exact fun others same => told_eq_of_json_eq same
  case clean => exact fun none => summary_of_clean (listed.trans none)
  case problems => exact fun some => summary_of_problems (listed ▸ some)
  case told_apart => exact listed ▸ summary_clean_iff reports
  case count => exact (length_located reports).symm

/-- A path with a quote and a message with a line end and a control character, next to a file without problems.
That file does not show in the JSON form. -/
theorem formats_tell_same_escaped :
    let d : Diagnostic := ⟨.invalidLink, "a\n\u0001", ⟨0, 9⟩, ⟨2, 29⟩⟩
    let reports : List FileReport := [⟨"\"x\".md", [d]⟩, ⟨"y.md", []⟩]
    Json.read? (render .json reports) = some (.array [.object [
        ("path", .atom (.text "\"x\".md")), ("kind", .atom (.text "invalid-link")),
        ("message", .atom (.text "a\n\u0001")), ("line", .atom (.number 2)),
        ("column", .atom (.number 29))]]) ∧
      render .text reports = "\"x\".md:2:29: a\n\u0001\n1 problem(s) in 1 of 2 file(s)\n" ∧
      [("\"x\".md", d)].map told = (located reports).map told := by
  intro d reports
  obtain ⟨read, lossless, -⟩ := formats_tell_same reports
  exact ⟨read, by decide, lossless [⟨"\"x\".md", [d]⟩] rfl⟩

end CuratedList.Report
