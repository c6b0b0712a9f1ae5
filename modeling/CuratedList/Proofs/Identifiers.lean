import CuratedList.Identifiers
import Mathlib.Data.Finset.Card
import Mathlib.Data.List.TakeWhile

/-! # Identifiers and files of words

A list of identifiers holds each word once, so that its size counts the different words (`size_extend`).

A words file lists a word or none on each line. White space around the words, comments, blank lines and the
kind of line ends make no difference to the words that are read from it (`Written.wordsOfFile_eq`).
-/

namespace CuratedList
set_option autoImplicit false

/-! ## Trimming -/

namespace Text

theorem trim_append_of_blank (cs : List Char) {back : List Char} (blank : ∀ c ∈ back, isBlank c = true) :
    trim (cs ++ back) = trim cs := by
  have gone : back.dropWhile isBlank = [] := List.dropWhile_eq_nil_iff.2 blank
  rw [trim, trimStart, List.dropWhile_append, trim, trimStart]
  cases kept : cs.dropWhile isBlank with
  | nil => simp [gone]
  | cons c rest => exact dropWhileEnd_append (c :: rest) blank

theorem trim_blank_append {front : List Char} (blank : ∀ c ∈ front, isBlank c = true) (cs : List Char) :
    trim (front ++ cs) = trim cs := by
  rw [trim, trimStart, List.dropWhile_append_of_pos blank, ← trimStart, ← trim]

end Text

namespace Identifiers

/-! ## What a list holds -/

theorem contains_iff_mem (ids : Identifiers) (w : String) : ids.contains w = true ↔ w ∈ ids.words := by
  simp [contains]

theorem mem_extend (ids : Identifiers) (ws : List String) (w : String) :
    w ∈ (ids.extend ws).words ↔ w ∈ ids.words ∨ w ∈ ws := by
  simp [← contains_iff_mem, or_comm]

/-- The size counts each word once, however often it was added. -/
theorem size_extend (ids : Identifiers) (ws : List String) :
    (ids.extend ws).size = (ids.words ++ ws).toFinset.card := by
  have members : (ids.extend ws).words.toFinset = (ids.words ++ ws).toFinset :=
    Finset.ext fun w => by simp [mem_extend]
  rw [size, ← List.toFinset_card_of_nodup (ids.extend ws).nodup, members]

/-- The order of the added words does not count for the size, nor how often each is added. -/
theorem size_extend_congr {ids : Identifiers} {ws vs : List String} (same : ∀ w, w ∈ ws ↔ w ∈ vs) :
    (ids.extend ws).size = (ids.words ++ vs).toFinset.card := by
  have members : (ids.words ++ ws).toFinset = (ids.words ++ vs).toFinset :=
    Finset.ext fun w => by simp [same]
  rw [size_extend, members]

/-! ## Lines -/

theorem go_append {cs : List Char} (oneLine : '\n' ∉ cs) (line rest : List Char) :
    lines.go line (cs ++ rest) = lines.go (cs.reverse ++ line) rest := by
  induction cs generalizing line with
  | nil => rfl
  | cons c cs ih =>
    obtain ⟨here, later⟩ := not_or.1 (List.mem_cons.not.1 oneLine)
    have step : lines.go line (c :: (cs ++ rest)) = lines.go (c :: line) (cs ++ rest) := by
      rw [lines.go]
      exact fun same => here same.symm
    rw [List.cons_append, step, ih later]
    simp

theorem lines_of_oneLine {cs : List Char} (oneLine : '\n' ∉ cs) :
    lines cs = if cs.isEmpty then [] else [cs] := by
  have read := go_append oneLine [] []
  simpa [lines, lines.go] using read

/-- The characters before a line feed are a line, and so are they without a carriage return at the end. -/
theorem exists_lines_cons {cs : List Char} (oneLine : '\n' ∉ cs) (rest : List Char) :
    ∃ line, (cs = line ∨ cs = line ++ ['\r']) ∧ lines (cs ++ '\n' :: rest) = line :: lines rest := by
  have read := go_append oneLine [] ('\n' :: rest)
  rw [lines, read, List.append_nil]
  cases backwards : cs.reverse with
  | nil => exact ⟨[], .inl (List.reverse_eq_nil_iff.1 backwards), rfl⟩
  | cons c before =>
    have whole : cs = before.reverse ++ [c] := by
      rw [← List.reverse_reverse cs, backwards, List.reverse_cons]
    by_cases carriage : c = '\r'
    · subst carriage
      exact ⟨before.reverse, .inr whole, rfl⟩
    · refine ⟨cs, .inl rfl, ?_⟩
      rw [lines.go, ← backwards, List.reverse_reverse]
      · rfl
      · exact fun _ same => carriage (List.cons.inj same).1

/-! ## The word of a line -/

def IsPadding (cs : List Char) : Prop := ∀ c ∈ cs, Text.isBlank c = true ∧ c ≠ '\n'

instance (cs : List Char) : Decidable (IsPadding cs) := List.decidableBAll _ cs

/-- A comment on a line, or nothing. -/
inductive IsComment : List Char → Prop
  | none : IsComment []
  | text {cs : List Char} (oneLine : '\n' ∉ cs) : IsComment ('#' :: cs)

/-- A word that a line can list: it is not empty, no white space is around it, and no comment or line end is
in it. -/
structure IsListable (w : List Char) : Prop where
  nonempty : w ≠ []
  trimmed : Text.trim w = w
  noComment : '#' ∉ w
  oneLine : '\n' ∉ w

/-- A line lists at most one word, with white space around it and a comment after it. -/
inductive Lists : List Char → List String → Prop
  | nothing {before comment : List Char} (padding : IsPadding before) (tail : IsComment comment) :
      Lists (before ++ comment) []
  | word {before w after comment : List Char} (front : IsPadding before) (listable : IsListable w)
      (back : IsPadding after) (tail : IsComment comment) :
      Lists (before ++ w ++ after ++ comment) [String.ofList w]

theorem IsPadding.noComment {cs : List Char} (padding : IsPadding cs) : '#' ∉ cs := fun member =>
  absurd (padding '#' member).1 (by decide)

theorem IsPadding.oneLine {cs : List Char} (padding : IsPadding cs) : '\n' ∉ cs := fun member =>
  (padding '\n' member).2 rfl

theorem IsPadding.blank {cs : List Char} (padding : IsPadding cs) : ∀ c ∈ cs, Text.isBlank c = true :=
  fun c member => (padding c member).1

theorem IsComment.oneLine {cs : List Char} (tail : IsComment cs) : '\n' ∉ cs := by
  cases tail with
  | none => exact List.not_mem_nil
  | text oneLine => simpa using oneLine

theorem IsComment.takeWhile {comment : List Char} (tail : IsComment comment) {cs : List Char}
    (plain : '#' ∉ cs) : (cs ++ comment).takeWhile (· != '#') = cs := by
  have before : ∀ c ∈ cs, (c != '#') = true := fun c member =>
    bne_iff_ne.2 fun same => plain (same ▸ member)
  rw [List.takeWhile_append_of_pos before]
  cases tail <;> simp

theorem Lists.oneLine {line : List Char} {ws : List String} (lists : Lists line ws) : '\n' ∉ line := by
  cases lists with
  | nothing padding tail => simp [padding.oneLine, tail.oneLine]
  | word front listable back tail =>
    simp [front.oneLine, listable.oneLine, back.oneLine, tail.oneLine]

def wordsOfLines (ls : List (List Char)) : List String :=
  ((ls.map wordOfLine).filter (!·.isEmpty)).map String.ofList

theorem wordsOfLines_cons (line : List Char) (ls : List (List Char)) :
    wordsOfLines (line :: ls) = wordsOfLines [line] ++ wordsOfLines ls := by
  rw [wordsOfLines, ← List.singleton_append, List.map_append, List.filter_append, List.map_append,
    ← wordsOfLines, ← wordsOfLines]

/-- The word that is read from a line is the word that it lists. -/
theorem Lists.wordsOfLines_eq {line : List Char} {ws : List String} (lists : Lists line ws) :
    wordsOfLines [line] = ws := by
  cases lists with
  | @nothing before comment padding tail =>
    have none : Text.trim before = [] := by
      have trimmed := Text.trim_blank_append padding.blank []
      rwa [List.append_nil] at trimmed
    have read : wordOfLine (before ++ comment) = [] := by
      rw [wordOfLine, tail.takeWhile padding.noComment, none]
    simp [wordsOfLines, read]
  | @word before w after comment front listable back tail =>
    have plain : '#' ∉ before ++ w ++ after := by
      simp [front.noComment, listable.noComment, back.noComment]
    have read : wordOfLine (before ++ w ++ after ++ comment) = w := by
      rw [wordOfLine, tail.takeWhile plain, Text.trim_append_of_blank _ back.blank,
        Text.trim_blank_append front.blank, listable.trimmed]
    simp only [wordsOfLines, List.map_cons, List.map_nil, read]
    simp [listable.nonempty]

/-- A carriage return at the end of a line makes no difference to its word. -/
theorem wordOfLine_append_return (line : List Char) : wordOfLine (line ++ ['\r']) = wordOfLine line := by
  have blank : ∀ c ∈ ['\r'], Text.isBlank c = true := List.forall_mem_singleton.2 (by decide)
  rw [wordOfLine, wordOfLine, List.takeWhile_append]
  split
  next whole =>
    have plain : line.takeWhile (· != '#') = line := (List.takeWhile_prefix _).eq_of_length whole
    rw [plain]
    exact Text.trim_append_of_blank line blank
  next => rfl

/-! ## Words files -/

/-- A words file is written as lines that list its words. A line ends at a line feed or at a carriage return and
a line feed; the last one may have no end. -/
inductive Written : List Char → List String → Prop
  | last {line : List Char} {ws : List String} (lists : Lists line ws) : Written line ws
  | line {line ending rest : List Char} {ws more : List String} (lists : Lists line ws)
      (ended : ending = ['\n'] ∨ ending = ['\r', '\n']) (later : Written rest more) :
      Written (line ++ ending ++ rest) (ws ++ more)

theorem wordsOfLines_lines_cons {cs : List Char} (oneLine : '\n' ∉ cs) (rest : List Char) :
    wordsOfLines (lines (cs ++ '\n' :: rest)) = wordsOfLines [cs] ++ wordsOfLines (lines rest) := by
  obtain ⟨line, rfl | rfl, read⟩ := exists_lines_cons oneLine rest
  · rw [read, wordsOfLines_cons]
  · rw [read, wordsOfLines_cons]
    simp only [wordsOfLines, List.map_cons, wordOfLine_append_return]

/-- The words that are read from a words file are those that it is written to list. -/
theorem Written.wordsOfFile_eq {content : String} {ws : List String} (written : Written content.toList ws) :
    wordsOfFile content = ws := by
  have parts : wordsOfFile content = wordsOfLines (lines content.toList) := rfl
  rw [parts]
  generalize content.toList = cs at written
  induction written with
  | @last line ws lists =>
    rw [lines_of_oneLine lists.oneLine, ← lists.wordsOfLines_eq]
    cases line <;> rfl
  | @line line ending rest ws more lists ended later ih =>
    rcases ended with rfl | rfl
    · rw [List.append_assoc, List.singleton_append, wordsOfLines_lines_cons lists.oneLine,
        lists.wordsOfLines_eq, ih]
    · -- the carriage return stays with the line, and is trimmed off its word
      have oneLine : '\n' ∉ line ++ ['\r'] := by simp [lists.oneLine]
      have split : line ++ ['\r', '\n'] ++ rest = line ++ ['\r'] ++ '\n' :: rest := by simp
      have same : wordsOfLines [line ++ ['\r']] = wordsOfLines [line] := by
        simp only [wordsOfLines, List.map_cons, wordOfLine_append_return]
      rw [split, wordsOfLines_lines_cons oneLine, same, lists.wordsOfLines_eq, ih]

end Identifiers
end CuratedList
