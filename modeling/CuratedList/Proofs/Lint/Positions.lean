import CuratedList.Proofs.Lint.Order
import CuratedList.Proofs.Text.Lines

/-! # Positions of reports

The position of an offset is looked up in the table of lines of its source. The look-up never fails, and
gives what counting line feeds and characters gives. As the counts only grow, the offset of a report can be
told from its line and column (`position_counts_and_inverts`).
-/

namespace CuratedList
set_option autoImplicit false

namespace Text.Position

theorem position?_ofOffset (source : List Char) (offset : Nat) :
    (LineIndex.ofSource source).position? offset = some (ofOffset source offset) :=
  (Option.some_get _).symm

theorem line_ofOffset (source : List Char) (offset : Nat) :
    (ofOffset source offset).line =
      ((bytes source).take (min offset (byteLength source))).count 10 + 1 := by
  obtain ⟨found, at', line⟩ := exists_position? source offset
  rw [position?_ofOffset, Option.some.injEq] at at'
  rw [at', line]

theorem column_ofOffset {source before : List Char} {offset : Nat} (part : before <+: source)
    (here : byteLength before = min offset (byteLength source)) :
    (ofOffset source offset).column = (lastLine before).length + 1 := by
  obtain ⟨rest, rfl⟩ := part
  have found := position?_of_boundary before rest here.symm
  rw [position?_ofOffset, Option.some.injEq] at found
  rw [found]

end Text.Position

namespace Linter

open Text

/-- The place of a report is told by its line and column. -/
theorem offset?_of_mem_lintText {linter : Linter} {source : String} {d : Diagnostic}
    (member : d ∈ linter.lintText source) :
    Position.offset? source.toList d.position = some d.span.start := by
  obtain ⟨boundary, position⟩ := isBoundary_of_mem_lintText member
  rw [position]
  exact Position.offset?_ofOffset boundary

/-- A look-up gives a position for every offset. Its line counts the line feeds among the bytes before the
offset, and at the end of a character its column counts the characters after the last of them. Positions
of such offsets are in strict order, and those of reports give their offsets back. -/
theorem position_counts_and_inverts (source : String) :
    (∀ offset, (LineIndex.ofSource source.toList).position? offset =
        some (.ofOffset source.toList offset) ∧
      (Position.ofOffset source.toList offset).line =
        ((bytes source.toList).take (min offset (byteLength source.toList))).count 10 + 1 ∧
      ∀ before, before <+: source.toList →
        byteLength before = min offset (byteLength source.toList) →
        (Position.ofOffset source.toList offset).column = (lastLine before).length + 1) ∧
    StrictMonoOn (fun offset => (Position.ofOffset source.toList offset).key)
      {offset | IsBoundary source.toList offset} ∧
    ∀ (linter : Linter), ∀ d ∈ linter.lintText source,
      Position.offset? source.toList d.position = some d.span.start := by
  refine ⟨fun offset => ⟨?_, ?_, fun before part here => ?_⟩, ?_, fun linter d member => ?_⟩
  · exact Position.position?_ofOffset _ _
  · exact Position.line_ofOffset _ _
  · exact Position.column_ofOffset part here
  · exact Position.ofOffset_strictMonoOn _
  · exact offset?_of_mem_lintText member

/-- A report in the second line, after a character of two bytes in the first. -/
theorem position_counts_and_inverts_accented :
    "é\n- ".toList <+: "é\n- [É](x)\n".toList ∧
    byteLength "é\n- ".toList = min 5 (byteLength "é\n- [É](x)\n".toList) ∧
    IsBoundary "é\n- [É](x)\n".toList 3 ∧ IsBoundary "é\n- [É](x)\n".toList 5 ∧
    (⟨.invalidLinkUrl, "Invalid list item link URL", ⟨5, 12⟩, ⟨2, 3⟩⟩ : Diagnostic) ∈
      (Linter.mk (.standard .empty) true).lintText "é\n- [É](x)\n" ∧
    (LineIndex.ofSource "é\n- [É](x)\n".toList).position? 5 =
      some (.ofOffset "é\n- [É](x)\n".toList 5) ∧
    (Position.ofOffset "é\n- [É](x)\n".toList 5).column = (lastLine "é\n- ".toList).length + 1 ∧
    (Position.ofOffset "é\n- [É](x)\n".toList 3).key <
      (Position.ofOffset "é\n- [É](x)\n".toList 5).key ∧
    Position.offset? "é\n- [É](x)\n".toList ⟨2, 3⟩ = some 5 := by
  have part : "é\n- ".toList <+: "é\n- [É](x)\n".toList := by decide
  have length : byteLength "é\n- ".toList = min 5 (byteLength "é\n- [É](x)\n".toList) := by decide
  have three : IsBoundary "é\n- [É](x)\n".toList 3 := ⟨"é\n".toList, by decide, by decide⟩
  have five : IsBoundary "é\n- [É](x)\n".toList 5 := ⟨"é\n- ".toList, part, by decide⟩
  have reported : (⟨.invalidLinkUrl, "Invalid list item link URL", ⟨5, 12⟩, ⟨2, 3⟩⟩ : Diagnostic) ∈
      (Linter.mk (.standard .empty) true).lintText "é\n- [É](x)\n" := by
    decide +kernel
  obtain ⟨counts, increasing, inverts⟩ := position_counts_and_inverts "é\n- [É](x)\n"
  obtain ⟨found, -, column⟩ := counts 5
  exact ⟨part, length, three, five, reported, found, column _ part length,
    increasing three five (by decide), inverts _ _ reported⟩

end Linter
end CuratedList
