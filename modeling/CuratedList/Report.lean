import CuratedList.Lint
import CuratedList.Text.Quoted

/-! # Reports

The diagnostics of several files as text, one line each with a summary at the end, or as a JSON array.
-/

namespace CuratedList
set_option autoImplicit false

/-- The diagnostics of one file. -/
structure FileReport where
  path : String
  diagnostics : List Diagnostic

/-- The forms of a report. -/
inductive ReportFormat where
  | text
  | json
  deriving DecidableEq, Repr

namespace Report

/-- The number of diagnostics. -/
def problemCount (reports : List FileReport) : Nat :=
  reports.foldr (fun r count => r.diagnostics.length + count) 0

/-- The diagnostics, each with the path of its file, in the order of the files. -/
def located (reports : List FileReport) : List (String × Diagnostic) :=
  reports.flatMap fun r => r.diagnostics.map fun d => (r.path, d)

theorem length_located (reports : List FileReport) :
    (located reports).length = problemCount reports := by
  induction reports with
  | nil => rfl
  | cons r rs ih =>
    have rest : (located rs).length = rs.foldr (fun r count => r.diagnostics.length + count) 0 := ih
    rw [located, List.flatMap_cons, List.length_append, List.length_map, ← located, rest, problemCount,
      List.foldr_cons]

/-! ## Text -/

/-- The line of a diagnostic. -/
def textLine (path : String) (d : Diagnostic) : String :=
  s!"{path}:{d.position.line}:{d.position.column}: {d.message}\n"

/-- The line after the diagnostics. -/
def summary (reports : List FileReport) : String :=
  let problems := problemCount reports
  if problems = 0 then s!"No problems found in {reports.length} file(s)\n"
  else
    let failing := (reports.filter fun r => !r.diagnostics.isEmpty).length
    s!"{problems} problem(s) in {failing} of {reports.length} file(s)\n"

/-- A report as text. -/
def text (reports : List FileReport) : String :=
  String.join ((located reports).map fun (path, d) => textLine path d) ++ summary reports

/-! ## JSON -/

/-- How a character is written in a JSON string. -/
def jsonChar (c : Char) : List Char :=
  match c with
  | '"' => ['\\', '"']
  | '\\' => ['\\', '\\']
  | '\x08' => ['\\', 'b']
  | '\x0c' => ['\\', 'f']
  | '\n' => ['\\', 'n']
  | '\r' => ['\\', 'r']
  | '\t' => ['\\', 't']
  | c => if c.toNat < 0x20 then '\\' :: 'u' :: Text.hexadecimal 4 c.toNat else [c]

/-- A JSON string. -/
def jsonString (s : String) : List Char := '"' :: s.toList.flatMap jsonChar ++ ['"']

/-- The members of the object of a diagnostic. -/
def jsonMembers (path : String) (d : Diagnostic) : List (String × List Char) :=
  [("path", jsonString path), ("kind", jsonString d.kind.name), ("message", jsonString d.message),
    ("line", (toString d.position.line).toList), ("column", (toString d.position.column).toList)]

/-- Texts with commas and line ends between them. -/
def jsonLines : List (List Char) → List Char
  | [] => []
  | [t] => t
  | t :: ts => t ++ [',', '\n'] ++ jsonLines ts

/-- The object of a diagnostic, a line for each member. -/
def jsonObject (path : String) (d : Diagnostic) : List Char :=
  let member := fun (m : String × List Char) => "    ".toList ++ jsonString m.1 ++ [':', ' '] ++ m.2
  "  ".toList ++ [Char.ofNat 0x7B, '\n'] ++ jsonLines ((jsonMembers path d).map member) ++
    "\n  ".toList ++ [Char.ofNat 0x7D]

/-- A report as a JSON array. -/
def json (reports : List FileReport) : String :=
  match located reports with
  | [] => "[]\n"
  | ds =>
    String.ofList (['[', '\n'] ++ jsonLines (ds.map fun (path, d) => jsonObject path d) ++
      ['\n', ']', '\n'])

/-- A report in one of the forms. -/
def render (format : ReportFormat) (reports : List FileReport) : String :=
  match format with
  | .text => text reports
  | .json => json reports

end Report
end CuratedList
