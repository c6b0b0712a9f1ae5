import CuratedList.Proofs.Failure
import CuratedList.Proofs.Files.Path
import CuratedList.Proofs.Files.Pattern
import CuratedList.Settings.Targets

/-! # What the patterns of settings stand for

A pattern is read in a directory: what is searched for has the name of the directory in front (`ReadAs`). The
search takes the patterns one after another and ends at the first text that is no pattern
(`targets_eq_error_iff`). Nothing else ends it, whatever the file system holds.
-/

namespace CuratedList.Settings
set_option autoImplicit false

/-! ## Patterns in a directory -/

/-- The text that a pattern is read as in a directory. It is the pattern alone if the directory has no name or
the pattern starts at the root. Otherwise the name of the directory stands before it, written so that it matches
itself, with one slash between. -/
inductive ReadAs (base pattern : String) : String → Prop
  | alone (free : base = "" ∨ pattern.toList.head? = some '/') : ReadAs base pattern pattern
  | inside {name start : List Char} {slashes : Nat} (named : base ≠ "")
      (relative : pattern.toList.head? ≠ some '/')
      (path : base.toList = name ++ List.replicate slashes '/') (ends : name.getLast? ≠ some '/')
      (escapes : Escapes name start) : ReadAs base pattern (String.ofList (start ++ '/' :: pattern.toList))

theorem isEmpty_literalPattern_iff (base : String) : (literalPattern base).isEmpty = true ↔ base = "" := by
  have some (c : Char) : escapedChar c ≠ [] := by
    unfold escapedChar
    split <;> exact List.cons_ne_nil _ _
  rw [String.isEmpty_iff, literalPattern_eq, ← String.toList_inj, String.toList_ofList, ← String.toList_inj,
    String.toList_empty, List.flatMap_eq_nil_iff, List.eq_nil_iff_forall_not_mem]
  simp only [some, imp_false]

theorem patternFrom_of_alone {base pattern : String}
    (free : base = "" ∨ pattern.toList.head? = some '/') : patternFrom base pattern = pattern := by
  simp only [patternFrom, isEmpty_literalPattern_iff, Path.isAbsolute, Bool.or_eq_true, beq_iff_eq, free, if_true]

theorem patternFrom_of_inside {base pattern : String} {name start : List Char} {slashes : Nat}
    (named : base ≠ "") (relative : pattern.toList.head? ≠ some '/')
    (path : base.toList = name ++ List.replicate slashes '/') (ends : name.getLast? ≠ some '/')
    (escapes : Escapes name start) :
    patternFrom base pattern = String.ofList (start ++ '/' :: pattern.toList) := by
  have written : literalPattern base = String.ofList (start ++ List.replicate slashes '/') := by
    have slash : escapedChar '/' = ['/'] := by decide
    rw [literalPattern_eq, path, List.flatMap_append, ← Escapes.iff_eq.1 escapes]
    simp [List.flatMap_replicate, slash]
  have free : ¬ ((literalPattern base).isEmpty || Path.isAbsolute pattern) = true := by
    rw [Bool.or_eq_true, isEmpty_literalPattern_iff, Path.isAbsolute, beq_iff_eq]
    exact not_or.2 ⟨named, relative⟩
  rw [patternFrom, if_neg free, written, Path.withoutLastSlashes_ofList (escapes.getLast?_ne_slash ends)]
  simp [String.ofList_append, String.append_assoc]

theorem readAs_iff {base pattern text : String} : ReadAs base pattern text ↔ text = patternFrom base pattern := by
  constructor
  · rintro (free | ⟨named, relative, path, ends, escapes⟩)
    · exact (patternFrom_of_alone free).symm
    · exact (patternFrom_of_inside named relative path ends escapes).symm
  · rintro rfl
    by_cases free : base = "" ∨ pattern.toList.head? = some '/'
    · rw [patternFrom_of_alone free]
      exact .alone free
    · obtain ⟨named, relative⟩ := not_or.1 free
      obtain ⟨name, slashes, path, ends⟩ := Path.exists_slashes base.toList
      have escapes := Escapes.iff_eq.2 (rfl : name.flatMap escapedChar = _)
      rw [patternFrom_of_inside named relative path ends escapes]
      exact .inside named relative path ends escapes

/-- Seen from the working directory, a pattern is what it is. -/
theorem patternFrom_empty (pattern : String) : patternFrom "" pattern = pattern :=
  patternFrom_of_alone (.inl rfl)

/-- The pattern of a text, seen from a directory. -/
def patternIn (base pattern : String) : Except PatternError PathPattern :=
  PathPattern.ofText (patternFrom base pattern)

theorem patternIn_empty : patternIn "" = PathPattern.ofText :=
  funext fun pattern => congrArg PathPattern.ofText (patternFrom_empty pattern)

/-- A plain name has none of the signs that make a pattern. -/
def IsPlain (pattern : String) : Prop :=
  '*' ∉ pattern.toList ∧ '?' ∉ pattern.toList ∧ '[' ∉ pattern.toList

instance (pattern : String) : Decidable (IsPlain pattern) := inferInstanceAs (Decidable (_ ∧ _))

theorem hasPatternSigns_eq_false_iff (pattern : String) : hasPatternSigns pattern = false ↔ IsPlain pattern := by
  simp only [hasPatternSigns, IsPlain, List.any_eq_false, Bool.or_eq_true, beq_iff_eq, not_or]
  constructor
  · intro none
    exact ⟨fun sign => (none _ sign).1.1 rfl, fun sign => (none _ sign).1.2 rfl, fun sign => (none _ sign).2 rfl⟩
  · rintro ⟨stars, marks, brackets⟩ c member
    refine ⟨⟨?_, ?_⟩, ?_⟩ <;> rintro rfl
    · exact stars member
    · exact marks member
    · exact brackets member

/-! ## The search -/

variable (files : Files Id) (base : String)

/-- What ends the search does not depend on what it has found before. -/
theorem addTargets_failure_iff (t : Targets) (patterns : List String) (e : SettingsError) :
    (addTargets files base t patterns).2 = some e ↔
      ∃ pattern cause, e = .badPattern pattern cause ∧
        FirstFailure (patternIn base) patterns pattern cause := by
  induction patterns generalizing t with
  | nil =>
    have none : (addTargets files base t []).2 = none := rfl
    simp [none, FirstFailure.not_nil]
  | cons first patterns ih =>
    cases parsed : patternIn base first with
    | error cause =>
      have ends : (addTargets files base t (first :: patterns)).2 =
          some (.badPattern first cause) := by
        rw [addTargets, ← patternIn, parsed]
        rfl
      simp only [ends, Option.some.injEq, FirstFailure.cons_of_error parsed]
      constructor
      · rintro rfl
        exact ⟨first, cause, rfl, rfl, rfl⟩
      · rintro ⟨_, _, rfl, rfl, rfl⟩
        rfl
    | ok p =>
      have goesOn : ∃ next, addTargets files base t (first :: patterns) =
          addTargets files base next patterns := by
        rw [addTargets, ← patternIn, parsed]
        simp only [bind]
        split
        · exact ⟨_, rfl⟩
        · exact ⟨_, rfl⟩
      obtain ⟨next, goesOn⟩ := goesOn
      simp only [goesOn, ih, FirstFailure.cons_of_ok parsed]

theorem targets_eq_error_iff (s : Settings) (e : SettingsError) :
    (s.targets files base).1 = .error e ↔
      ∃ pattern cause, e = .badPattern pattern cause ∧
        FirstFailure (patternIn base) s.files pattern cause := by
  rw [← addTargets_failure_iff files base {}]
  rw [targets]
  simp only [bind]
  rcases addTargets files base {} s.files with ⟨t, _ | found⟩ <;> simp [pure]

/-- The search ends early exactly if some text is no pattern. -/
theorem exists_targets_eq_error_iff (s : Settings) :
    (∃ e, (s.targets files base).1 = .error e) ↔
      ∃ pattern ∈ s.files, ∃ cause, patternIn base pattern = .error cause := by
  rw [← FirstFailure.exists_iff]
  simp only [targets_eq_error_iff]
  constructor
  · rintro ⟨_, pattern, cause, -, first⟩
    exact ⟨pattern, cause, first⟩
  · rintro ⟨pattern, cause, first⟩
    exact ⟨_, pattern, cause, rfl, first⟩

end CuratedList.Settings
