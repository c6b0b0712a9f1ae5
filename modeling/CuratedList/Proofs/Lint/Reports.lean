import CuratedList.Lint
import CuratedList.Proofs.Document.Entries
import Mathlib.Data.List.Flatten
import Mathlib.Data.List.Perm.Subperm

/-! # What a check of a document reports

Checking a document is a loop over lists inside which runs a loop over items. Both loops only ever add
to the sink and to the count, so a whole run reports the violations of the selected lists in order, and
counts them (`lintInto_eq`). Together with the entries of the document, no entry is left out and none is
reported twice (`lintInto_reports_each_entry_once`).
-/

namespace CuratedList
set_option autoImplicit false

namespace Linter

/-- The violations of items, in order. -/
def violationsOf (linter : Linter) (items : List Item) : List Violation :=
  items.filterMap linter.violation?

/-- The violations of a document, in the order of its selected lists and their items. -/
def violations (linter : Linter) (doc : Document) : List Violation :=
  (selectLists doc linter.respectContents).flatMap fun list => linter.violationsOf list.1

theorem violations_eq (linter : Linter) (doc : Document) :
    linter.violations doc =
      linter.violationsOf ((selectLists doc linter.respectContents).flatMap Prod.fst) := by
  simp only [violations, violationsOf, List.filterMap_flatMap]

theorem violation?_eq_some_iff (linter : Linter) (item : Item) (v : Violation) :
    linter.violation? item = some v ↔ validateEntry linter.context item = .error v := by
  unfold violation?
  split
  next h => simp [h]
  next u h => simp [h]

/-! ## The two loops -/

section

variable {σ : Type} (linter : Linter) (sink : Sink σ) (source : List Char)

/-- The state after these violations have been reported. -/
def reportAll (state : σ × Nat) (vs : List Violation) : σ × Nat :=
  ((vs.map (Diagnostic.ofViolation source)).foldl sink.report state.1, state.2 + vs.length)

theorem reportAll_append (state : σ × Nat) (us vs : List Violation) :
    reportAll sink source state (us ++ vs) =
      reportAll sink source (reportAll sink source state us) vs := by
  simp only [reportAll, List.map_append, List.foldl_append, List.length_append, Nat.add_assoc]

theorem checkEntry_eq (state : σ × Nat) (item : Item) :
    linter.checkEntry sink source state item =
      reportAll sink source state (linter.violation? item).toList := by
  unfold checkEntry
  cases linter.violation? item <;> rfl

theorem foldl_checkEntry (state : σ × Nat) (items : List Item) :
    items.foldl (linter.checkEntry sink source) state =
      reportAll sink source state (linter.violationsOf items) := by
  induction items generalizing state with
  | nil => rfl
  | cons i is ih =>
    have h : linter.violationsOf (i :: is) =
        (linter.violation? i).toList ++ linter.violationsOf is := by
      simp only [violationsOf, List.filterMap_cons]
      cases linter.violation? i <;> rfl
    rw [List.foldl_cons, ih, checkEntry_eq, h, reportAll_append]

theorem foldl_lists (state : σ × Nat) (lists : List (List Item × Span)) :
    lists.foldl (fun state list => list.1.foldl (linter.checkEntry sink source) state) state =
      reportAll sink source state (lists.flatMap fun list => linter.violationsOf list.1) := by
  induction lists generalizing state with
  | nil => rfl
  | cons l ls ih =>
    rw [List.foldl_cons, ih, foldl_checkEntry, List.flatMap_cons, reportAll_append]

theorem lintInto_eq (doc : Document) (held : σ) :
    linter.lintInto sink source doc held =
      reportAll sink source (held, 0) (linter.violations doc) :=
  foldl_lists linter sink source (held, 0) _

end

/-! ## Reports in a list -/

theorem foldl_list_report (held ds : List Diagnostic) :
    ds.foldl Sink.list.report held = held ++ ds := by
  induction ds generalizing held with
  | nil => rw [List.foldl_nil, List.append_nil]
  | cons d ds ih =>
    rw [List.foldl_cons, ih]
    simp only [Sink.list, List.append_assoc, List.singleton_append]

theorem lintInto_list (linter : Linter) (source : List Char) (doc : Document)
    (held : List Diagnostic) :
    linter.lintInto .list source doc held =
      (held ++ (linter.violations doc).map (.ofViolation source), (linter.violations doc).length) := by
  rw [lintInto_eq, reportAll, foldl_list_report, Nat.zero_add]

theorem lintDocument_eq (linter : Linter) (source : List Char) (doc : Document) :
    linter.lintDocument source doc = (linter.violations doc).map (.ofViolation source) := by
  rw [lintDocument, lintInto_list, List.nil_append]

/-! ## Each entry once -/

/-- Diagnostics of entries, in their order: one for each entry that is rejected, with the kind and the span of its
violation, and none for any other. -/
inductive Reported (cx : Context) : List Item → List Diagnostic → Prop
  | nil : Reported cx [] []
  | accepted {item : Item} {items : List Item} {ds : List Diagnostic} (ok : validateEntry cx item = .ok ())
      (rest : Reported cx items ds) : Reported cx (item :: items) ds
  | rejected {item : Item} {items : List Item} {v : Violation} {d : Diagnostic} {ds : List Diagnostic}
      (fails : validateEntry cx item = .error v) (kind : d.kind = v.kind) (span : d.span = v.span)
      (rest : Reported cx items ds) : Reported cx (item :: items) (d :: ds)

theorem reported_cons_of_ok {cx : Context} {item : Item} {items : List Item} {ds : List Diagnostic}
    (ok : validateEntry cx item = .ok ()) : Reported cx (item :: items) ds ↔ Reported cx items ds := by
  refine ⟨fun reported => ?_, .accepted ok⟩
  cases reported with
  | accepted _ rest => exact rest
  | rejected fails => cases ok.symm.trans fails

theorem reported_cons_of_error {cx : Context} {item : Item} {items : List Item} {v : Violation}
    {ds : List Diagnostic} (fails : validateEntry cx item = .error v) :
    Reported cx (item :: items) ds ↔
      ∃ d rest, ds = d :: rest ∧ d.kind = v.kind ∧ d.span = v.span ∧ Reported cx items rest := by
  constructor
  · intro reported
    cases reported with
    | accepted ok => cases ok.symm.trans fails
    | rejected fails' kind span rest =>
      cases fails.symm.trans fails'
      exact ⟨_, _, rfl, kind, span, rest⟩
  · rintro ⟨d, rest, rfl, kind, span, reported⟩
    exact .rejected fails kind span reported

theorem reported_violationsOf (linter : Linter) (source : List Char) (items : List Item) :
    Reported linter.context items ((linter.violationsOf items).map (.ofViolation source)) := by
  induction items with
  | nil => exact .nil
  | cons item items ih =>
    rw [violationsOf, List.filterMap_cons, ← violationsOf]
    cases judged : validateEntry linter.context item with
    | ok =>
      have none : linter.violation? item = none := by rw [violation?, judged]
      rw [none]
      exact .accepted judged ih
    | error v =>
      rw [(linter.violation?_eq_some_iff item v).2 judged]
      exact .rejected judged rfl rfl ih

/-- A check appends to the list one report for each rejected entry of the selected lists, and counts what it
appends. Without a table of contents to skip, these are the entries of the document, each as often as the document
has it; with one, they are among these. -/
theorem lintInto_reports_each_entry_once (cx : Context) (source : List Char) (doc : Document)
    (held : List Diagnostic) :
    (∀ respectContents, ∃ ds, Reported cx ((selectLists doc respectContents).flatMap Prod.fst) ds ∧
      (Linter.mk cx respectContents).lintInto .list source doc held = (held ++ ds, ds.length)) ∧
    ((selectLists doc false).flatMap Prod.fst).Perm doc.entries ∧
    ((selectLists doc true).flatMap Prod.fst).Subperm doc.entries := by
  have all : ((selectLists doc false).flatMap Prod.fst).Perm doc.entries := by
    rw [selectLists_false]
    exact Landmark.perm_entries_of_landmarks doc
  have some : ((selectLists doc true).flatMap Prod.fst).Sublist ((selectLists doc false).flatMap Prod.fst) :=
    (suffix_selectLists doc true).sublist.flatMap Prod.fst
  refine ⟨fun respectContents => ?_, all, some.subperm.trans all.subperm⟩
  let linter := Linter.mk cx respectContents
  refine ⟨(linter.violations doc).map (.ofViolation source), ?reported, ?appended⟩
  case reported =>
    rw [violations_eq]
    exact reported_violationsOf linter source _
  case appended => rw [List.length_map, lintInto_list]

/-- An entry without content stands in the table of contents, and another one inside an entry of a quoted list. The
entry around it passes, for its description is an emoji to this context. -/
theorem lintInto_reports_each_entry_once_nested :
    let cx : Context := ⟨fun _ => true, Text.literalEmoji ":tada:".toList, Text.CaseStyle.ofWord, fun _ => false⟩
    let source := "## Contents\n\n-\n\n## Tools\n\n> - [A](https://a.org) :tada:\n>   -\n".toList
    let link : Inline := .link "https://a.org" [.text "A" ⟨31, 32⟩] ⟨30, 48⟩
    let outer : Item := .mk [.paragraph [link, .text " :tada:" ⟨48, 55⟩] ⟨30, 55⟩,
      .list [.mk [] ⟨60, 61⟩] ⟨60, 61⟩] ⟨28, 61⟩
    let doc : Document := ⟨[.heading 2 [.text "Contents" ⟨3, 11⟩] ⟨0, 11⟩, .list [.mk [] ⟨13, 14⟩] ⟨13, 14⟩,
      .heading 2 [.text "Tools" ⟨19, 24⟩] ⟨16, 24⟩, .other [.list [outer] ⟨28, 61⟩] ⟨26, 61⟩]⟩
    let held : List Diagnostic := [⟨.invalidLink, "", ⟨0, 3⟩, ⟨1, 1⟩⟩]
    (∃ c d : Diagnostic,
      (c.kind = .invalidEntry ∧ c.span = ⟨13, 14⟩) ∧ (d.kind = .invalidEntry ∧ d.span = ⟨60, 61⟩) ∧
      (Linter.mk cx false).lintInto .list source doc held = (held ++ [c, d], 2)) ∧
    ∃ d : Diagnostic, (d.kind = .invalidEntry ∧ d.span = ⟨60, 61⟩) ∧
      (Linter.mk cx true).lintInto .list source doc held = (held ++ [d], 1) := by
  intro cx source link outer doc held
  have passes : validateEntry cx outer = .ok () := by decide +kernel
  have fails (span : Span) : validateEntry cx (.mk [] span) = .error ⟨.invalidEntry, span⟩ := rfl
  have all : (selectLists doc false).flatMap Prod.fst = [.mk [] ⟨13, 14⟩, outer, .mk [] ⟨60, 61⟩] := rfl
  have selected : (selectLists doc true).flatMap Prod.fst = [outer, .mk [] ⟨60, 61⟩] := by
    with_unfolding_all rfl
  obtain ⟨checked, -, -⟩ := lintInto_reports_each_entry_once cx source doc held
  constructor
  · obtain ⟨ds, reported, appended⟩ := checked false
    rw [all, reported_cons_of_error (fails _)] at reported
    obtain ⟨c, ds, rfl, kind, span, reported⟩ := reported
    rw [reported_cons_of_ok passes, reported_cons_of_error (fails _)] at reported
    obtain ⟨d, ds, rfl, kind', span', ⟨⟩⟩ := reported
    exact ⟨c, d, ⟨kind, span⟩, ⟨kind', span'⟩, appended⟩
  · obtain ⟨ds, reported, appended⟩ := checked true
    rw [selected, reported_cons_of_ok passes, reported_cons_of_error (fails _)] at reported
    obtain ⟨d, ds, rfl, kind, span, ⟨⟩⟩ := reported
    exact ⟨d, ⟨kind, span⟩, appended⟩

end Linter
end CuratedList
