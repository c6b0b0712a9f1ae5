import CuratedList.Proofs.Settings.Targets
import Mathlib.Data.List.Basic

/-! # Which paths patterns stand for

A pattern stands for the paths that match what it is read as, and a plain name that nothing matches stands for
itself (`standsFor`). The search goes through the patterns in their order and adds each path unless it is there,
so what it finds are the paths of all patterns in a row, each at its first place (`targets_in_order_each_once`).
-/

namespace CuratedList
set_option autoImplicit false

namespace Path

theorem same_self (a : String) : same a a = true := beq_self_eq_true (components a)

theorem same_comm (a b : String) : same a b = same b a := BEq.comm

end Path

namespace PathPattern

/-- A part with signs of patterns leads on at the names in the directory that match it, in their order. -/
theorem searchFrom_of_signs {files : Files Id} {part : List PatternToken} {path : String}
    {entries : List (String × FileKind)} (signs : PatternToken.literal? part = none)
    (single : isRecursive part = false) (shown : part.head? ≠ some (.char '.'))
    (directory : files.kind? path = some FileKind.directory) (listed : files.entries path = .ok entries)
    (directoriesOnly : Bool) (fuel : Nat) (parts : List (List PatternToken)) :
    searchFrom files directoriesOnly (fuel + 1) (part :: parts) path =
      (entries.mergeSort fun a b => a.1 ≤ b.1).flatMap fun (name, kind) =>
        let next := inside path name
        if PatternToken.allMatch part name.toList then
          if parts.isEmpty then accept directoriesOnly next (some kind)
          else searchFrom files directoriesOnly fuel parts next
        else [] := by
  have other : (part.head? == some (.char '.')) = false := by simpa using shown
  have loop {α β : Type} (f : α → Id β) (as : List α) : as.mapM f = as.map f := List.mapM_pure (m := Id)
  simp only [searchFrom, signs, single, other, directory, listed, bind, pure, loop]
  rfl

end PathPattern

namespace Settings

/-! ## First places -/

/-- The paths with one more, unless it is among them. -/
def keep (kept : List String) (path : String) : List String :=
  if kept.any (Path.same path) then kept else kept ++ [path]

/-- Of more paths those are added that are not there, each at its first place. -/
theorem foldl_keep (kept more : List String) :
    more.foldl keep kept =
      kept ++ (more.filter fun path => !kept.any (Path.same path)).eraseDupsBy Path.same := by
  induction more generalizing kept with
  | nil => exact (List.append_nil kept).symm
  | cons path more ih =>
    rw [List.foldl_cons, ih]
    cases there : kept.any (Path.same path) with
    | true => rw [keep, if_pos there, List.filter_cons_of_neg (by simp [there])]
    | false =>
      -- after this path, what counts as new is what was new before, less the other spellings of it
      have others : (more.filter fun other => !(kept ++ [path]).any (Path.same other)) =
          (more.filter fun other => !kept.any (Path.same other)).filter
            fun other => decide (Path.same other path = false) := by
        rw [List.filter_filter]
        refine List.filter_congr fun other _ => ?_
        rw [List.any_append, List.any_cons, List.any_nil, Bool.or_false]
        cases kept.any (Path.same other) <;> cases Path.same other path <;> rfl
      rw [keep, if_neg (by simp [there]), others, List.filter_cons_of_pos (by simp [there]),
        List.eraseDupsBy_cons, List.append_assoc, List.singleton_append]

theorem foldl_keep_nil (paths : List String) :
    paths.foldl keep [] = paths.eraseDupsBy Path.same := by
  simp [foldl_keep]

/-- No two texts in the list are the same path. -/
def Distinct (paths : List String) : Prop := paths.Pairwise fun a b => Path.same a b = false

theorem Distinct.keep {kept : List String} (distinct : Distinct kept) (path : String) :
    Distinct (keep kept path) := by
  rw [Settings.keep]
  split
  · exact distinct
  next new =>
    refine List.pairwise_append.2 ⟨distinct, List.pairwise_singleton .., fun a member b last => ?_⟩
    rw [List.mem_singleton.1 last, Path.same_comm, ← Bool.not_eq_true]
    exact fun same => new (List.any_eq_true.2 ⟨a, member, same⟩)

theorem distinct_foldl_keep {kept : List String} (distinct : Distinct kept) (more : List String) :
    Distinct (more.foldl keep kept) := by
  induction more generalizing kept with
  | nil => exact distinct
  | cons path more ih => exact ih (distinct.keep path)

/-- Every path that was to be added is there in the end, in this or another spelling. -/
theorem exists_same_of_mem {path : String} {more : List String} (member : path ∈ more)
    (kept : List String) : ∃ other ∈ more.foldl keep kept, Path.same path other = true := by
  obtain ⟨before, after, rfl⟩ := List.append_of_mem member
  rw [List.foldl_append, List.foldl_cons, foldl_keep]
  have there : ∃ other ∈ keep (before.foldl keep kept) path, Path.same path other = true := by
    rw [keep]
    split
    next found => exact List.any_eq_true.1 found
    next => exact ⟨path, List.mem_concat_self, Path.same_self path⟩
  obtain ⟨other, kept, same⟩ := there
  exact ⟨other, List.mem_append_left _ kept, same⟩

/-! ## One pattern -/

/-- Directories that cannot be listed do not count. -/
def matching (files : Files Id) (p : PathPattern) : List String :=
  (p.search files).filterMap Except.toOption

/-- The paths that a pattern stands for in a directory, where it is read as a text: those that match the text, or
the pattern itself, seen from the directory, if it is a plain name and nothing matches. -/
def standsFor (files : Files Id) (base pattern text : String) : List String :=
  match PathPattern.ofText text with
  | .error _ => []
  | .ok p =>
    if matching files p = [] ∧ IsPlain pattern then [Path.join base pattern] else matching files p

theorem standsFor_ne_nil (files : Files Id) {base pattern text : String} {p : PathPattern}
    (parsed : PathPattern.ofText text = .ok p) (plain : IsPlain pattern) :
    standsFor files base pattern text ≠ [] := by
  simp only [standsFor, parsed, plain, and_true]
  split
  next => exact List.cons_ne_nil _ _
  next found => exact found

/-- The paths that a pattern stands for where the search takes it in a directory. -/
def standsIn (files : Files Id) (base pattern : String) : List String :=
  standsFor files base pattern (patternFrom base pattern)

theorem paths_addPath (t : Targets) (path : String) : (t.addPath path).paths = keep t.paths path := by
  rw [Targets.addPath, keep]
  split <;> rfl

/-- Directories that cannot be listed add no path. -/
theorem paths_foldl_add (found : List (Except Unreadable String)) (t : Targets) :
    (found.foldl Targets.add t).paths = (found.filterMap Except.toOption).foldl keep t.paths := by
  induction found generalizing t with
  | nil => rfl
  | cons f found ih =>
    rw [List.foldl_cons, ih]
    cases f with
    | error u => rfl
    | ok path => rw [Targets.add, paths_addPath]; rfl

theorem any_isSome_toOption (found : List (Except Unreadable String)) :
    (found.any fun f => f.toOption.isSome) = !(found.filterMap Except.toOption).isEmpty := by
  induction found with
  | nil => rfl
  | cons f found ih =>
    cases f with
    | error u => exact ih
    | ok path => rfl

/-- A pattern adds the paths that it stands for. -/
theorem addTargets_cons_of_ok (files : Files Id) {base pattern : String} {p : PathPattern}
    (parsed : patternIn base pattern = .ok p) (t : Targets) (patterns : List String) :
    ∃ next : Targets, next.paths = (standsIn files base pattern).foldl keep t.paths ∧
      addTargets files base t (pattern :: patterns) = addTargets files base next patterns := by
  have found : ((p.search files).foldl Targets.add t).paths = (matching files p).foldl keep t.paths :=
    paths_foldl_add (p.search files) t
  rw [addTargets, ← patternIn, parsed, standsIn, standsFor, ← patternIn, parsed]
  simp only [bind, any_isSome_toOption (p.search files), ← hasPatternSigns_eq_false_iff]
  rw [← matching]
  by_cases none : matching files p = [] <;> cases signs : hasPatternSigns pattern
  case pos.false =>
    refine ⟨_, ?_, by simp [none]; rfl⟩
    rw [paths_addPath, found, none]
    simp
  all_goals exact ⟨_, by simpa [none] using found, by simp [none]⟩

/-! ## All patterns -/

/-- If all texts are patterns, the search adds the paths of each in turn. -/
theorem addTargets_of_ok (files : Files Id) (base : String) {patterns : List String}
    (parsed : ∀ pattern ∈ patterns, ∃ p, patternIn base pattern = .ok p) (t : Targets) :
    ∃ next : Targets, next.paths = (patterns.flatMap (standsIn files base)).foldl keep t.paths ∧
      addTargets files base t patterns = (next, none) := by
  induction patterns generalizing t with
  | nil => exact ⟨t, rfl, rfl⟩
  | cons pattern patterns ih =>
    obtain ⟨⟨p, here⟩, later⟩ := List.forall_mem_cons.1 parsed
    obtain ⟨middle, added, step⟩ := addTargets_cons_of_ok files here t patterns
    obtain ⟨next, rest, run⟩ := ih later middle
    refine ⟨next, ?_, step.trans run⟩
    rw [rest, added, List.flatMap_cons, List.foldl_append]

theorem targets_of_ok (files : Files Id) (base : String) {s : Settings}
    (parsed : ∀ pattern ∈ s.files, ∃ p, patternIn base pattern = .ok p) :
    (s.targets files base).1 = .ok ((s.files.flatMap (standsIn files base)).foldl keep []) := by
  obtain ⟨next, found, run⟩ := addTargets_of_ok files base parsed {}
  rw [targets, run]
  simp only [bind, found]
  rfl

theorem parsed_of_targets_eq_ok {files : Files Id} {base : String} {s : Settings} {paths : List String}
    (found : (s.targets files base).1 = .ok paths) :
    ∀ pattern ∈ s.files, ∃ p, patternIn base pattern = .ok p := by
  intro pattern member
  cases parsed : patternIn base pattern with
  | ok p => exact ⟨p, rfl⟩
  | error cause =>
    obtain ⟨e, failed⟩ := (exists_targets_eq_error_iff files base s).2 ⟨pattern, member, cause, parsed⟩
    cases found.symm.trans failed

/-- Every pattern is read in the directory as one text: alone, or after the name of the directory, which is
written so that it matches itself and nothing else. If some text is no pattern, the search fails at the first
such text. Otherwise it finds the paths that the patterns stand for, in their order and each at its first place.
Nothing a pattern stands for is left out, and plain names always stand for something; one more pattern only adds
paths at the end. -/
theorem targets_in_order_each_once (files : Files Id) (base : String) (s : Settings) :
    ∃ read : String → String, (∀ pattern text, ReadAs base pattern text ↔ text = read pattern) ∧
      (∀ name start, Escapes name start → ∃ ts, PatternToken.ofText (String.ofList start) = .ok ts ∧
        ∀ cs, PatternToken.allMatch ts cs = true ↔ cs = name) ∧
      ((∃ pattern ∈ s.files, ∃ cause, PathPattern.ofText (read pattern) = .error cause) →
        ∃ pattern cause,
          FirstFailure (fun pattern => PathPattern.ofText (read pattern)) s.files pattern cause ∧
          (s.targets files base).1 = .error (.badPattern pattern cause)) ∧
      ((∀ pattern ∈ s.files, ∃ p, PathPattern.ofText (read pattern) = .ok p) →
        (s.targets files base).1 = .ok
          ((s.files.flatMap fun pattern => standsFor files base pattern (read pattern)).eraseDupsBy Path.same)) ∧
      ∀ paths, (s.targets files base).1 = .ok paths →
        Distinct paths ∧
        (∀ pattern ∈ s.files, ∀ path ∈ standsFor files base pattern (read pattern),
          ∃ other ∈ paths, Path.same path other = true) ∧
        (∀ pattern ∈ s.files, IsPlain pattern → standsFor files base pattern (read pattern) ≠ []) ∧
        ∀ pattern p, PathPattern.ofText (read pattern) = .ok p → ∃ more,
          (targets { s with files := s.files ++ [pattern] } files base).1 = .ok (paths ++ more) := by
  refine ⟨patternFrom base, fun _ _ => readAs_iff, fun _ _ escapes => escapes.matches_name, ?fails, ?finds,
    fun paths found => ?_⟩
  case fails =>
    intro wrong
    obtain ⟨pattern, cause, first⟩ := (FirstFailure.exists_iff s.files).2 wrong
    exact ⟨pattern, cause, first, (targets_eq_error_iff files base s _).2 ⟨_, _, rfl, first⟩⟩
  case finds =>
    intro parsed
    rw [targets_of_ok files base parsed, foldl_keep_nil]
    rfl
  have parsed := parsed_of_targets_eq_ok found
  have run := Except.ok.inj (found.symm.trans (targets_of_ok files base parsed))
  refine ⟨?distinct, ?complete, ?plain, ?grows⟩
  case distinct =>
    rw [run]
    exact distinct_foldl_keep List.Pairwise.nil _
  case complete =>
    intro pattern member path stands
    rw [run]
    exact exists_same_of_mem (List.mem_flatMap.2 ⟨pattern, member, stands⟩) []
  case plain =>
    intro pattern member plain
    obtain ⟨p, here⟩ := parsed pattern member
    exact standsFor_ne_nil files here plain
  case grows =>
    intro pattern p here
    have all : ∀ q ∈ s.files ++ [pattern], ∃ p, patternIn base q = .ok p :=
      List.forall_mem_append.2 ⟨parsed, List.forall_mem_singleton.2 ⟨p, here⟩⟩
    rw [targets_of_ok files base all, List.flatMap_append, List.foldl_append, ← run, foldl_keep]
    exact ⟨_, rfl⟩

/-! ## Two directories -/

/-- Two directories with one file in each, one of them with signs of patterns in its name, and a file at the root. -/
def twoDirectories : Files Id where
  kind? path :=
    if path = "." || path = "/" || path = "x" || path = "[x]" then some .directory
    else if path = "/d.md" then some .file
    else none
  read _ := .error .notFound
  entries path := if path = "." then .ok [("[x]", .directory), ("x", .directory)] else .ok [("b.md", .file)]
  depth := 2

theorem mergeSort_twoDirectories : ([("[x]", .directory), ("x", .directory)] : List (String × FileKind)).mergeSort
    (fun a b => a.1 ≤ b.1) = [("[x]", .directory), ("x", .directory)] :=
  List.mergeSort_of_pairwise (by decide +kernel)

theorem matching_all : matching twoDirectories ⟨".", [[.anyChars]], false⟩ = ["[x]", "x"] := by
  rw [matching, PathPattern.search, PathPattern.searchFrom_of_signs (by decide) (by decide) (by decide) rfl rfl,
    mergeSort_twoDirectories]
  decide +kernel

/-- The name of the first directory, as it is written in patterns. -/
def bracketed : List PatternToken := [.oneOf [⟨'[', '['⟩], .char 'x', .oneOf [⟨']', ']'⟩]]

theorem matching_bracketed (part : List PatternToken) : matching twoDirectories ⟨".", [bracketed, part], false⟩ =
    (PathPattern.searchFrom twoDirectories false 4 [part] "[x]").filterMap Except.toOption := by
  have inside : PathPattern.inside "." "[x]" = "[x]" := by decide +kernel
  have own : PatternToken.allMatch bracketed "[x]".toList = true := by decide +kernel
  have other : PatternToken.allMatch bracketed "x".toList = false := by decide +kernel
  rw [matching, PathPattern.search, PathPattern.searchFrom_of_signs (by decide) (by decide) (by decide) rfl rfl,
    mergeSort_twoDirectories]
  simp only [List.flatMap_cons, List.flatMap_nil, inside, own, other, if_true, Bool.false_eq_true, if_false,
    List.append_nil]
  rfl

theorem matching_any : matching twoDirectories
    ⟨".", [bracketed, [.anyChars, .char '.', .char 'm', .char 'd']], false⟩ = ["[x]/b.md"] := by
  rw [matching_bracketed, PathPattern.searchFrom_of_signs (by decide) (by decide) (by decide) rfl rfl,
    List.mergeSort_singleton]
  decide +kernel

theorem matching_missing : matching twoDirectories
    ⟨".", [bracketed, [.char 'c', .char '.', .char 'm', .char 'd']], false⟩ = [] := by
  rw [matching_bracketed]
  decide +kernel

theorem matching_root : matching twoDirectories
    ⟨"/", [[.char 'd', .char '.', .char 'm', .char 'd']], false⟩ = ["/d.md"] := by decide +kernel

theorem matching_plain : matching twoDirectories ⟨".", [[.char 'x']], false⟩ = ["x"] := by decide +kernel

/-- The directory whose name has signs of patterns is searched, and not the one that its name would match. There, a
pattern from the root is read alone, and a plain name that nothing matches stands for the file that it names. Of
two texts that are no patterns, the first one is told. In the working directory the paths of all patterns are found
in the order of the patterns, each once, and one more pattern adds its path at the end. -/
theorem targets_in_order_each_once_signs :
    let files := twoDirectories
    let inside : Settings := { files := ["*.md", "/d.md", "c.md"] }
    let wrong : Settings := { files := ["x", "[", "***"] }
    let all : Settings := { files := ["x", "*"] }
    (inside.targets files "[x]/").1 = .ok ["[x]/b.md", "/d.md", "[x]/c.md"] ∧
      (wrong.targets files "").1 = .error (.badPattern "[" ⟨0, .openClass⟩) ∧
      (all.targets files "").1 = .ok ["x", "[x]"] ∧ Distinct ["x", "[x]"] ∧
      ∃ more, (targets { all with files := ["x", "*", "c.md"] } files "").1 = .ok (["x", "[x]"] ++ more) := by
  have reading {base : String} {read : String → String}
      (only : ∀ pattern text, ReadAs base pattern text ↔ text = read pattern) : read = patternFrom base :=
    funext fun pattern => ((only pattern _).1 (readAs_iff.2 rfl)).symm
  have name : patternIn "" "x" = .ok ⟨".", [[.char 'x']], false⟩ := by with_unfolding_all rfl
  refine ⟨?inside, ?wrong, ?all⟩
  case inside =>
    obtain ⟨read, only, -, -, finds, -⟩ :=
      targets_in_order_each_once twoDirectories "[x]/" { files := ["*.md", "/d.md", "c.md"] }
    obtain rfl := reading only
    have any : PathPattern.ofText (patternFrom "[x]/" "*.md") =
        .ok ⟨".", [bracketed, [.anyChars, .char '.', .char 'm', .char 'd']], false⟩ := by with_unfolding_all rfl
    have root : PathPattern.ofText (patternFrom "[x]/" "/d.md") =
        .ok ⟨"/", [[.char 'd', .char '.', .char 'm', .char 'd']], false⟩ := by with_unfolding_all rfl
    have missing : PathPattern.ofText (patternFrom "[x]/" "c.md") =
        .ok ⟨".", [bracketed, [.char 'c', .char '.', .char 'm', .char 'd']], false⟩ := by with_unfolding_all rfl
    have plain : IsPlain "c.md" ∧ Path.join "[x]/" "c.md" = "[x]/c.md" := by decide
    rw [finds (by simp [any, root, missing])]
    simp only [List.flatMap_cons, List.flatMap_nil, standsFor, any, root, missing, matching_any, matching_root,
      matching_missing, plain]
    rfl
  case wrong =>
    obtain ⟨read, only, -, fails, -, -⟩ :=
      targets_in_order_each_once twoDirectories "" { files := ["x", "[", "***"] }
    obtain rfl := reading only
    have bad : patternIn "" "[" = .error ⟨0, .openClass⟩ := by with_unfolding_all rfl
    obtain ⟨pattern, cause, first, failed⟩ := fails ⟨"[", by simp, _, bad⟩
    change FirstFailure (patternIn "") ["x", "[", "***"] pattern cause at first
    rw [FirstFailure.cons_of_ok name, FirstFailure.cons_of_error bad] at first
    rw [failed, first.1, first.2]
  case all =>
    obtain ⟨read, only, -, -, finds, rest⟩ :=
      targets_in_order_each_once twoDirectories "" { files := ["x", "*"] }
    obtain rfl := reading only
    rw [patternIn] at name
    have star : PathPattern.ofText (patternFrom "" "*") = .ok ⟨".", [[.anyChars]], false⟩ := by
      with_unfolding_all rfl
    have more : PathPattern.ofText (patternFrom "" "c.md") =
        .ok ⟨".", [[.char 'c', .char '.', .char 'm', .char 'd']], false⟩ := by with_unfolding_all rfl
    have found : (targets { files := ["x", "*"] } twoDirectories "").1 = .ok ["x", "[x]"] := by
      rw [finds (by simp [name, star])]
      simp only [List.flatMap_cons, List.flatMap_nil, standsFor, name, star, matching_plain, matching_all]
      rfl
    obtain ⟨distinct, -, -, grows⟩ := rest _ found
    exact ⟨found, distinct, grows "c.md" _ more⟩

end Settings
end CuratedList
