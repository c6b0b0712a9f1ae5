import CuratedList.Files.Path
import Mathlib.Data.List.Induction

/-! # Paths from their components

A path that is put together from components, at the root or not, has these as its parts and as its components
(`parts_ofComponents`, `components_ofComponents`). What holds of paths that are not at the root comes first, for
a path at the root is one of them after a slash (`ofComponents_root`).
-/

namespace CuratedList.Path
set_option autoImplicit false

/-- A component leads from a directory to what is in it, or to the one above. -/
structure IsComponent (c : String) : Prop where
  some : c ≠ ""
  moves : c ≠ "."
  whole : '/' ∉ c.toList
  noNul : '\x00' ∉ c.toList

/-- A name leads from a directory to what is in it. -/
structure IsName (n : String) : Prop extends IsComponent n where
  into : n ≠ ".."

/-! ## Parts -/

theorem partsFrom_of_noSlash {cs : List Char} (whole : '/' ∉ cs) (part : List Char) :
    partsFrom part cs = [part.reverse ++ cs] := by
  induction cs generalizing part with
  | nil => simp [partsFrom]
  | cons c cs ih =>
    obtain ⟨other, whole⟩ := not_or.1 (List.mem_cons.not.1 whole)
    rw [partsFrom, if_neg (Ne.symm other), ih whole]
    simp

theorem partsFrom_slash (part cs ds : List Char) :
    partsFrom part (cs ++ '/' :: ds) = partsFrom part cs ++ partsFrom [] ds := by
  induction cs generalizing part with
  | nil => simp [partsFrom]
  | cons c cs ih =>
    by_cases slash : c = '/'
    · simp [partsFrom, slash, ih]
    · simp [partsFrom, slash, ih]

theorem parts_slash (a b : String) : parts (a ++ "/" ++ b) = parts a ++ parts b := by
  have text : (a ++ "/" ++ b).toList = a.toList ++ '/' :: b.toList := by simp
  rw [parts, text, partsFrom_slash, List.map_append]
  rfl

theorem IsComponent.parts {p : String} (component : IsComponent p) : parts p = [p] := by
  rw [Path.parts, partsFrom_of_noSlash component.whole]
  simp

theorem IsComponent.isAbsolute {p : String} (component : IsComponent p) : isAbsolute p = false := by
  refine Bool.eq_false_iff.2 fun absolute => component.whole ?_
  exact List.mem_of_mem_head? (beq_iff_eq.1 absolute)

/-! ## Paths that are not at the root -/

theorem ofComponents_concat (ps : List String) (p : String) :
    ofComponents (ps ++ [p]) = join (ofComponents ps) p :=
  List.foldl_append

theorem join_of_noSlash {a p : String} (noSlash : a.toList.getLast? ≠ some '/') (component : IsComponent p) :
    join a p = if a = "" then p else a ++ "/" ++ p := by
  simp [join, component.isAbsolute, noSlash]

theorem getLast?_of_isComponent {p : String} (component : IsComponent p) (cs : List Char) :
    (cs ++ p.toList).getLast? ≠ some '/' := by
  intro slash
  obtain ⟨front, c, last⟩ := (List.eq_nil_or_concat p.toList).resolve_left (by simpa using component.some)
  rw [last, List.concat_eq_append, ← List.append_assoc, List.getLast?_concat] at slash
  exact component.whole (by simp [last, Option.some.inj slash])

variable {ps : List String}

theorem forall_mem_concat {p : String} :
    (∀ q ∈ ps ++ [p], IsComponent q) ↔ (∀ q ∈ ps, IsComponent q) ∧ IsComponent p := by
  simp [or_imp, forall_and]

theorem getLast?_ofComponents (plain : ∀ p ∈ ps, IsComponent p) :
    (ofComponents ps).toList.getLast? ≠ some '/' := by
  induction ps using List.reverseRecOn with
  | nil => decide
  | append_singleton ps p ih =>
    obtain ⟨others, component⟩ := forall_mem_concat.1 plain
    rw [ofComponents_concat, join_of_noSlash (ih others) component]
    split
    · exact getLast?_of_isComponent component []
    · simpa using getLast?_of_isComponent component ((ofComponents ps).toList ++ ['/'])

/-- Components in a row are put together with slashes. -/
theorem ofComponents_of_plain (plain : ∀ p ∈ ps, IsComponent p) {p : String} (component : IsComponent p) :
    ofComponents (ps ++ [p]) =
      if ofComponents ps = "" then p else ofComponents ps ++ "/" ++ p := by
  rw [ofComponents_concat, join_of_noSlash (getLast?_ofComponents plain) component]

theorem ofComponents_ne_empty (plain : ∀ p ∈ ps, IsComponent p) (some : ps ≠ []) :
    ofComponents ps ≠ "" := by
  obtain ⟨front, p, rfl⟩ := (List.eq_nil_or_concat ps).resolve_left some
  rw [List.concat_eq_append] at plain ⊢
  obtain ⟨others, component⟩ := forall_mem_concat.1 plain
  rw [ofComponents_of_plain others component]
  split
  · exact component.some
  · intro empty
    have text := congrArg String.toList empty
    simp at text

/-- The parts of a path are the components that it is put together from. -/
theorem parts_ofComponents (plain : ∀ p ∈ ps, IsComponent p) (some : ps ≠ []) :
    parts (ofComponents ps) = ps := by
  induction ps using List.reverseRecOn with
  | nil => exact absurd rfl some
  | append_singleton ps p ih =>
    obtain ⟨others, component⟩ := forall_mem_concat.1 plain
    rw [ofComponents_of_plain others component]
    by_cases several : ps = []
    · subst several
      exact component.parts
    · rw [if_neg (ofComponents_ne_empty others several), parts_slash, ih others several, component.parts]

theorem isAbsolute_ofComponents (plain : ∀ p ∈ ps, IsComponent p) :
    isAbsolute (ofComponents ps) = false := by
  by_cases some : ps = []
  · subst some
    rfl
  · refine Bool.eq_false_iff.2 fun absolute => ?_
    obtain ⟨cs, text⟩ := List.head?_eq_some_iff.1 (beq_iff_eq.1 absolute)
    have first : "" ∈ parts (ofComponents ps) := by
      rw [parts, text]
      simp [partsFrom]
    rw [parts_ofComponents plain some] at first
    exact (plain "" first).some rfl

theorem filter_parts_ofComponents (plain : ∀ p ∈ ps, IsComponent p) :
    (parts (ofComponents ps)).filter (fun p => p != "" && p != ".") = ps := by
  by_cases some : ps = []
  · subst some
    rfl
  · rw [parts_ofComponents plain some]
    exact List.filter_eq_self.2 fun p member => by simp [(plain p member).some, (plain p member).moves]

theorem components_ofComponents (plain : ∀ p ∈ ps, IsComponent p) :
    components (ofComponents ps) = ps := by
  by_cases some : ps = []
  · subst some
    rfl
  · have kept := filter_parts_ofComponents plain
    rw [parts_ofComponents plain some] at kept
    rw [components, isAbsolute_ofComponents plain, parts_ofComponents plain some]
    split
    next absolute => cases absolute
    next =>
      split
      next => exact absurd rfl (plain "." List.mem_cons_self).moves
      next => exact kept

theorem noNul_ofComponents (plain : ∀ p ∈ ps, IsComponent p) : '\x00' ∉ (ofComponents ps).toList := by
  induction ps using List.reverseRecOn with
  | nil => decide
  | append_singleton ps p ih =>
    obtain ⟨others, component⟩ := forall_mem_concat.1 plain
    rw [ofComponents_of_plain others component]
    split
    · exact component.noNul
    · simp [ih others, component.noNul]

theorem size_ofComponents_le (plain : ∀ p ∈ ps, IsComponent p) {p : String} (component : IsComponent p) :
    (ofComponents ps).utf8ByteSize ≤ (ofComponents (ps ++ [p])).utf8ByteSize := by
  rw [ofComponents_of_plain plain component]
  split
  next empty => simp [empty]
  next => simp only [String.utf8ByteSize_append]; omega

/-! ## Slashes at the end -/

theorem exists_slashes (cs : List Char) :
    ∃ name slashes, cs = name ++ List.replicate slashes '/' ∧ name.getLast? ≠ some '/' := by
  induction cs using List.reverseRecOn with
  | nil => exact ⟨[], 0, rfl, by simp⟩
  | append_singleton cs c ih =>
    by_cases slash : c = '/'
    · obtain ⟨name, slashes, rfl, last⟩ := ih
      exact ⟨name, slashes + 1, by simp [slash, List.replicate_succ'], last⟩
    · exact ⟨cs ++ [c], 0, by simp, by simpa using slash⟩

theorem withoutLastSlashes_ofList {cs : List Char} (last : cs.getLast? ≠ some '/') (slashes : Nat) :
    withoutLastSlashes (String.ofList (cs ++ List.replicate slashes '/')) = String.ofList cs := by
  have all : ∀ c ∈ List.replicate slashes '/', (c == '/') = true := by simp
  have kept : cs.reverse.dropWhile (· == '/') = cs.reverse := by
    rw [← List.head?_reverse] at last
    cases reversed : cs.reverse with
    | nil => rfl
    | cons c cs =>
      rw [reversed, List.head?_cons] at last
      exact List.dropWhile_cons_of_neg (by simpa using last)
  rw [withoutLastSlashes, String.toList_ofList, List.reverse_append, List.reverse_replicate,
    List.dropWhile_append_of_pos all, kept, List.reverse_reverse]

theorem withoutLastSlashes_of_getLast? {p : String} (last : p.toList.getLast? ≠ some '/') :
    withoutLastSlashes p = p := by
  simpa using withoutLastSlashes_ofList last 0

/-! ## Paths at the root or not -/

/-- What a path at the root has before its other components. -/
def leading (absolute : Bool) : List String := if absolute then ["/"] else []

theorem getLast?_root {p : String} (some : p ≠ "") : ("/" ++ p).toList.getLast? = p.toList.getLast? := by
  obtain ⟨front, c, text⟩ := (List.eq_nil_or_concat p.toList).resolve_left (by simpa using some)
  rw [String.toList_append, text, List.concat_eq_append, ← List.append_assoc, List.getLast?_concat,
    List.getLast?_concat]

theorem ofComponents_root (plain : ∀ p ∈ ps, IsComponent p) :
    ofComponents ("/" :: ps) = "/" ++ ofComponents ps := by
  induction ps using List.reverseRecOn with
  | nil => rfl
  | append_singleton ps p ih =>
    obtain ⟨others, component⟩ := forall_mem_concat.1 plain
    rw [← List.cons_append, ofComponents_concat, ih others, ofComponents_of_plain others component]
    by_cases none : ofComponents ps = ""
    · simp [none, join, component.isAbsolute]
    · have last : ("/" ++ ofComponents ps).toList.getLast? ≠ some '/' := by
        rw [getLast?_root none]
        exact getLast?_ofComponents others
      rw [join_of_noSlash last component, if_neg (by simp), if_neg none]
      simp [String.append_assoc]

theorem parts_root (p : String) : parts ("/" ++ p) = "" :: parts p := parts_slash "" p

theorem isAbsolute_root (p : String) : isAbsolute ("/" ++ p) = true := by simp [isAbsolute]

variable {absolute : Bool}

theorem components_leading (plain : ∀ p ∈ ps, IsComponent p) :
    components (ofComponents (leading absolute ++ ps)) = leading absolute ++ ps := by
  cases absolute with
  | false => exact components_ofComponents plain
  | true =>
    have kept := filter_parts_ofComponents plain
    rw [leading, if_pos rfl, List.singleton_append, ofComponents_root plain, components, isAbsolute_root,
      parts_root, if_pos rfl]
    simpa using kept

theorem parent?_leading (plain : ∀ p ∈ ps, IsComponent p) {p : String} (component : IsComponent p) :
    parent? (ofComponents (leading absolute ++ (ps ++ [p]))) =
      some (ofComponents (leading absolute ++ ps)) := by
  have all := forall_mem_concat.2 ⟨plain, component⟩
  rw [parent?, components_leading all]
  split
  next none => exact absurd none (by simp)
  next root =>
    cases absolute with
    | false =>
      have slash : IsComponent "/" := all "/" (by simp_all [leading])
      exact absurd slash.whole (by simp)
    | true => exact absurd root (by simp [leading])
  next => rw [← List.append_assoc, List.dropLast_concat]

theorem withoutLastSlashes_leading (plain : ∀ p ∈ ps, IsComponent p) (some : ps ≠ []) :
    withoutLastSlashes (ofComponents (leading absolute ++ ps)) = ofComponents (leading absolute ++ ps) := by
  have last := getLast?_ofComponents plain
  cases absolute with
  | false => exact withoutLastSlashes_of_getLast? last
  | true =>
    refine withoutLastSlashes_of_getLast? ?_
    rw [leading, if_pos rfl, List.singleton_append, ofComponents_root plain,
      getLast?_root (ofComponents_ne_empty plain some)]
    exact last

theorem size_leading_le (plain : ∀ p ∈ ps, IsComponent p) {p : String} (component : IsComponent p) :
    (ofComponents (leading absolute ++ ps)).utf8ByteSize ≤
      (ofComponents (leading absolute ++ (ps ++ [p]))).utf8ByteSize := by
  have le := size_ofComponents_le plain component
  cases absolute with
  | false => exact le
  | true =>
    rw [leading, if_pos rfl, List.singleton_append, List.singleton_append, ofComponents_root plain,
      ofComponents_root (forall_mem_concat.2 ⟨plain, component⟩), String.utf8ByteSize_append,
      String.utf8ByteSize_append]
    exact Nat.add_le_add_left le _

end CuratedList.Path
