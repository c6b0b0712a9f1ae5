import CuratedList.Proofs.Files.Path
import CuratedList.Proofs.Files.Store

/-! # Making directories

A path may start at the root or in the working directory, and lead to a directory that is there (`LeadsTo`).
Names after that lead to their location in this directory if the locations around it are directories
(`follow_names`), and to nothing if one of them is missing and none is a file (`follow_missing`). So the
directories of such a path can be made, unless a file stands where one of them has to be (`makePath_names`).
-/

namespace CuratedList.Store
set_option autoImplicit false

open CuratedList.Path

/-- Names in a directory, each short enough. -/
def AreNames (names : List String) : Prop :=
  ∀ n ∈ names, IsName n ∧ n.utf8ByteSize ≤ maxName

/-- A directory has directories at the location of names, and at the locations around it. -/
def HasDirectories (s : Store) (base names : List String) : Prop :=
  ∀ l, l <+: names → s.nodeAt? (base ++ l) = some .directory

/-- In a directory neither the location of names nor one around it is a file. -/
def NoFile (s : Store) (base names : List String) : Prop :=
  ∀ l, l <+: names → ∀ content, s.nodeAt? (base ++ l) ≠ some (.file content)

variable {s : Store} {base names : List String} {n : String}

/-! ## Following names -/

theorem step_name (name : IsName n) (short : n.utf8ByteSize ≤ maxName)
    (directory : s.nodeAt? base = some .directory) : s.step base n = .ok (base ++ [n]) := by
  rw [step, directory]
  simp [name.some, name.moves, name.into, Nat.not_lt.2 short]

theorem follow_names (plain : AreNames names)
    (directories : ∀ l, l <+: names → l ≠ names → s.nodeAt? (base ++ l) = some .directory) :
    s.follow base names = .ok (base ++ names) := by
  induction names generalizing base with
  | nil => simp [follow]
  | cons n names ih =>
    obtain ⟨⟨name, short⟩, others⟩ := List.forall_mem_cons.1 plain
    have here : s.nodeAt? base = some .directory := by
      simpa using directories [] List.nil_prefix (by simp)
    have later : ∀ l, l <+: names → l ≠ names → s.nodeAt? ((base ++ [n]) ++ l) = some .directory := by
      intro l around other
      simpa using directories (n :: l) (List.cons_prefix_cons.2 ⟨rfl, around⟩) (by simpa using other)
    rw [follow, step_name name short here]
    simpa using ih others later

theorem follow_missing (plain : AreNames names) (noFile : s.NoFile base names)
    (missing : ∃ l, l <+: names ∧ l ≠ names ∧ s.nodeAt? (base ++ l) ≠ some .directory) :
    s.follow base names = .error .notFound := by
  induction names generalizing base with
  | nil =>
    obtain ⟨l, around, other, -⟩ := missing
    exact absurd (List.prefix_nil.1 around) other
  | cons n names ih =>
    obtain ⟨⟨name, short⟩, others⟩ := List.forall_mem_cons.1 plain
    -- the walk ends at the first location that is missing
    match here : s.nodeAt? base with
    | none => simp [follow, step, here]
    | some (.file content) => exact absurd here (by simpa using noFile [] List.nil_prefix content)
    | some .directory =>
      have later : s.NoFile (base ++ [n]) names := by
        intro l around content
        simpa using noFile (n :: l) (List.cons_prefix_cons.2 ⟨rfl, around⟩) content
      rw [follow, step_name name short here]
      refine ih others later ?_
      obtain ⟨l, around, other, absent⟩ := missing
      cases l with
      | nil => exact absurd here (by simpa using absent)
      | cons m l =>
        obtain ⟨rfl, inner⟩ := List.cons_prefix_cons.1 around
        exact ⟨l, inner, by simpa using other, by simpa using absent⟩

theorem follow_append {location next as : List String} (first : s.follow location as = .ok next)
    (bs : List String) : s.follow location (as ++ bs) = s.follow next bs := by
  induction as generalizing location with
  | nil =>
    cases first
    rfl
  | cons a as ih =>
    rw [List.cons_append, follow]
    rw [follow] at first
    cases stepped : s.step location a with
    | error e => rw [stepped] at first; cases first
    | ok there =>
      rw [stepped] at first
      exact ih first

/-! ## Where paths start -/

/-- The location where paths start that are at the root or not. -/
def origin (s : Store) (absolute : Bool) : List String := if absolute then [] else s.working

theorem locate_leading {absolute : Bool} {ps : List String} (plain : ∀ p ∈ ps, IsComponent p)
    (some : leading absolute ++ ps ≠ [])
    (short : (ofComponents (leading absolute ++ ps)).utf8ByteSize < maxPath) :
    s.locate (ofComponents (leading absolute ++ ps)) = s.follow (s.origin absolute) ps := by
  have noNul := noNul_ofComponents plain
  cases absolute with
  | false =>
    have inked : ofComponents ps ≠ "" := ofComponents_ne_empty plain some
    have parts := parts_ofComponents plain some
    simp only [leading, Bool.false_eq_true, if_false, List.nil_append] at short ⊢
    rw [locate, if_neg (by simpa using inked), if_neg (by simpa using noNul), if_neg (Nat.not_le.2 short), start,
      isAbsolute_ofComponents plain, parts]
    rfl
  | true =>
    have past (parts : List String) : s.follow [] ("" :: parts) = s.follow [] parts := rfl
    have rooted : s.follow [] (parts (ofComponents ps)) = s.follow [] ps := by
      by_cases none : ps = []
      · subst none
        exact past []
      · rw [parts_ofComponents plain none]
    simp only [leading, if_true, List.singleton_append, ofComponents_root plain] at short ⊢
    rw [locate, if_neg (by simp), if_neg (by simpa using noNul), if_neg (Nat.not_le.2 short), start,
      isAbsolute_root, parts_root, if_pos rfl, past, rooted]
    rfl

/-- Components lead to a directory, from the root or from the working directory. -/
structure LeadsTo (s : Store) (absolute : Bool) (lead base : List String) : Prop where
  plain : ∀ c ∈ lead, IsComponent c
  follows : s.follow (s.origin absolute) lead = .ok base
  directory : s.nodeAt? base = some .directory

/-- The path of names after components that lead to a directory. -/
def pathOf (absolute : Bool) (lead names : List String) : String :=
  ofComponents (leading absolute ++ (lead ++ names))

variable {absolute : Bool} {lead : List String}

namespace LeadsTo

theorem put (leads : s.LeadsTo absolute lead base) {location : List String} (node : FileNode)
    (noDirectory : s.nodeAt? location ≠ some .directory) :
    (s.put location node).LeadsTo absolute lead base where
  plain := leads.plain
  follows := follow_put noDirectory node leads.follows
  directory := nodeAt?_put_of_directory noDirectory node leads.directory

theorem all_plain (leads : s.LeadsTo absolute lead base) (plain : AreNames names) :
    ∀ c ∈ lead ++ names, IsComponent c :=
  List.forall_mem_append.2 ⟨leads.plain, fun n member => (plain n member).1.toIsComponent⟩

theorem locate (leads : s.LeadsTo absolute lead base) (plain : AreNames names)
    (some : leading absolute ++ (lead ++ names) ≠ [])
    (short : (pathOf absolute lead names).utf8ByteSize < maxPath) :
    s.locate (pathOf absolute lead names) = s.follow base names := by
  rw [pathOf, locate_leading (leads.all_plain plain) some short, follow_append leads.follows]

end LeadsTo

/-! ## One directory -/

theorem not_concat_prefix : ¬ names ++ [n] <+: names :=
  fun h => absurd h.length_le (by simp)

theorem ensureDirectory_of_directory {path : String} {location : List String}
    (leads : s.locate path = .ok location) (directory : s.nodeAt? location = some .directory) :
    s.ensureDirectory path = .ok s := by
  have there : s.makeDirectory path = .error .alreadyExists := by
    simp [makeDirectory, leads, directory]
  have found : s.find path = .ok (location, .directory) := by
    simp [find, leads, directory]
  rw [ensureDirectory, there]
  simp only [found]

section

variable (leads : s.LeadsTo absolute lead base) (plain : AreNames (names ++ [n]))
variable (short : (pathOf absolute lead (names ++ [n])).utf8ByteSize < maxPath)

include leads plain short

theorem locate_concat (around : s.HasDirectories base names) :
    s.locate (pathOf absolute lead (names ++ [n])) = .ok (base ++ (names ++ [n])) := by
  rw [leads.locate plain (by simp) short]
  refine follow_names plain fun l inside other => ?_
  exact around l ((List.prefix_concat_iff.1 inside).resolve_left other)

/-- In a directory that is there a directory can be made, unless a file has its name. -/
theorem ensureDirectory_names (around : s.HasDirectories base names)
    (noFile : ∀ content, s.nodeAt? (base ++ (names ++ [n])) ≠ some (.file content)) :
    ∃ made, s.ensureDirectory (pathOf absolute lead (names ++ [n])) = .ok made ∧
      made.LeadsTo absolute lead base ∧ made.HasDirectories base (names ++ [n]) ∧
      ∀ l, ¬ l <+: names ++ [n] → made.nodeAt? (base ++ l) = s.nodeAt? (base ++ l) := by
  have there := locate_concat leads plain short around
  match here : s.nodeAt? (base ++ (names ++ [n])) with
  | some (.file content) => exact absurd here (noFile content)
  | some .directory =>
    refine ⟨s, ensureDirectory_of_directory there here, leads, fun l inside => ?_, fun l _ => rfl⟩
    rcases List.prefix_concat_iff.1 inside with rfl | inside
    · exact here
    · exact around l inside
  | none =>
    have room : s.makeDirectory (pathOf absolute lead (names ++ [n])) =
        .ok (s.put (base ++ (names ++ [n])) .directory) := by
      simp [makeDirectory, there, here]
    have noDirectory : s.nodeAt? (base ++ (names ++ [n])) ≠ some .directory := by simp [here]
    refine ⟨s.put (base ++ (names ++ [n])) .directory, ?_, leads.put _ noDirectory, fun l inside => ?_,
      fun l outside => ?_⟩
    · rw [ensureDirectory, room]
    · by_cases same : l = names ++ [n]
      · subst same
        exact nodeAt?_put s _ (by simp)
      · refine nodeAt?_put_of_directory noDirectory _ (around l ?_)
        exact (List.prefix_concat_iff.1 inside).resolve_left same
    · exact nodeAt?_put_of_ne _ fun same => outside (List.append_cancel_left same ▸ List.prefix_rfl)

theorem ensureDirectory_missing (noFile : s.NoFile base (names ++ [n]))
    (missing : ¬ s.HasDirectories base names) :
    s.ensureDirectory (pathOf absolute lead (names ++ [n])) = .error .notFound := by
  obtain ⟨l, inside, absent⟩ : ∃ l, l <+: names ∧ s.nodeAt? (base ++ l) ≠ some .directory := by
    simpa [HasDirectories] using missing
  have other : l ≠ names ++ [n] := by
    rintro rfl
    exact not_concat_prefix inside
  have followed : s.follow base (names ++ [n]) = .error .notFound :=
    follow_missing plain noFile ⟨l, inside.trans (List.prefix_append names [n]), other, absent⟩
  rw [ensureDirectory, makeDirectory, leads.locate plain (by simp) short, followed]

end

/-! ## All directories -/

/-- What is already there needs no directory to be made. -/
theorem makePath_lead (leads : s.LeadsTo absolute lead base)
    (short : (pathOf absolute lead []).utf8ByteSize < maxPath) :
    s.makePath (pathOf absolute lead []) = .ok s := by
  have none : AreNames [] := fun _ member => absurd member List.not_mem_nil
  have components : components (pathOf absolute lead []) = leading absolute ++ (lead ++ []) :=
    components_leading (leads.all_plain none)
  rw [makePath, components]
  cases last : (leading absolute ++ (lead ++ [])).reverse with
  | nil => rfl
  | cons c around =>
    have path : ofComponents (c :: around).reverse = pathOf absolute lead [] := by
      rw [← last, List.reverse_reverse, pathOf]
    have some : leading absolute ++ (lead ++ []) ≠ [] := by
      rw [← List.reverse_ne_nil_iff, last]
      exact List.cons_ne_nil c around
    have there := leads.locate none some short
    rw [makePathFrom, path, ensureDirectory_of_directory there leads.directory]

theorem makePath_concat (leads : s.LeadsTo absolute lead base) (plain : AreNames (names ++ [n])) :
    s.makePath (pathOf absolute lead (names ++ [n])) =
      match s.ensureDirectory (pathOf absolute lead (names ++ [n])) with
      | .error .notFound =>
        match s.makePath (pathOf absolute lead names) with
        | .ok s => s.ensureDirectory (pathOf absolute lead (names ++ [n]))
        | .error e => .error e
      | other => other := by
  have others : AreNames names := fun m member => plain m (List.mem_append_left _ member)
  have whole : components (pathOf absolute lead (names ++ [n])) = leading absolute ++ (lead ++ names) ++ [n] := by
    rw [pathOf, components_leading (leads.all_plain plain)]
    simp
  have around : components (pathOf absolute lead names) = leading absolute ++ (lead ++ names) :=
    components_leading (leads.all_plain others)
  have path : ofComponents (n :: (leading absolute ++ (lead ++ names)).reverse).reverse =
      pathOf absolute lead (names ++ [n]) := by
    simp [pathOf]
  have opened : s.makePath (pathOf absolute lead (names ++ [n])) =
      s.makePathFrom (n :: (leading absolute ++ (lead ++ names)).reverse) := by
    rw [makePath, whole, List.reverse_append, List.reverse_singleton, List.singleton_append]
  rw [opened, makePath, around, ← path]
  rfl

/-- The directories on the way to a location are made, and nothing else changes. -/
theorem makePath_names (leads : s.LeadsTo absolute lead base) (plain : AreNames names)
    (short : (pathOf absolute lead names).utf8ByteSize < maxPath) (noFile : s.NoFile base names) :
    ∃ made, s.makePath (pathOf absolute lead names) = .ok made ∧
      made.LeadsTo absolute lead base ∧ made.HasDirectories base names ∧
      ∀ l, ¬ l <+: names → made.nodeAt? (base ++ l) = s.nodeAt? (base ++ l) := by
  induction names using List.reverseRecOn with
  | nil =>
    refine ⟨s, makePath_lead leads short, leads, fun l inside => ?_, fun l _ => rfl⟩
    rw [List.prefix_nil.1 inside, List.append_nil]
    exact leads.directory
  | append_singleton names n ih =>
    have others : AreNames names := fun m member => plain m (List.mem_append_left _ member)
    have name : IsComponent n := (plain n (by simp)).1.toIsComponent
    have shorter : (pathOf absolute lead names).utf8ByteSize < maxPath := by
      refine Nat.lt_of_le_of_lt (size_leading_le (leads.all_plain others) name) ?_
      rwa [List.append_assoc]
    have inside (l : List String) (around : l <+: names) : l <+: names ++ [n] :=
      around.trans (List.prefix_append names [n])
    rw [makePath_concat leads plain]
    -- the directories around come first where one of them is missing
    by_cases around : s.HasDirectories base names
    · obtain ⟨made, done, rest⟩ :=
        ensureDirectory_names leads plain short around (noFile _ List.prefix_rfl)
      refine ⟨made, ?_, rest⟩
      rw [done]
    · obtain ⟨between, first, leadsThere, directories, kept⟩ :=
        ih others shorter fun l before => noFile l (inside l before)
      have noFileLeft : ∀ content, between.nodeAt? (base ++ (names ++ [n])) ≠ some (.file content) := by
        rw [kept _ not_concat_prefix]
        exact noFile _ List.prefix_rfl
      obtain ⟨made, last, still, all, same⟩ :=
        ensureDirectory_names leadsThere plain short directories noFileLeft
      refine ⟨made, ?_, still, all, fun l apart => (same l apart).trans (kept l (apart ∘ inside l))⟩
      rw [ensureDirectory_missing leads plain short noFile around]
      simp only [first]
      exact last

end CuratedList.Store
