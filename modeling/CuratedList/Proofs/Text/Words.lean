import CuratedList.Text.Words
import Mathlib.Data.List.TakeWhile

/-! # The words of a text, by its separators

A scan collects the words of a text character by character. Here they are read off the text as a whole:
the words of two texts with a separator between them are the words of the first and then those of the
second (`words_append_separator`), separators at either end add no word, and the first word is the part
between the leading separators and the next one (`words_head?_eq_some_iff`). All of them together are the
parts of the text that hold no separator and cannot go on at either side (`words_exactly_maximal`).
-/

namespace CuratedList.Text
set_option autoImplicit false

/-! ## Words side by side -/

theorem wordsFrom_append_separator (run front back : List Char) {c : Char}
    (separator : isSeparator c = true) :
    wordsFrom run (front ++ c :: back) = wordsFrom run front ++ words back := by
  induction front generalizing run with
  | nil =>
    simp only [List.nil_append, wordsFrom, separator, if_true, words]
    cases run with
    | nil => rfl
    | cons r rs => rfl
  | cons d front ih =>
    simp only [List.cons_append, wordsFrom, ih]
    cases isSeparator d with
    | false => rfl
    | true => cases run <;> rfl

theorem words_append_separator (front back : List Char) {c : Char}
    (separator : isSeparator c = true) :
    words (front ++ c :: back) = words front ++ words back :=
  wordsFrom_append_separator [] front back separator

theorem words_cons_separator {c : Char} (separator : isSeparator c = true) (cs : List Char) :
    words (c :: cs) = words cs :=
  words_append_separator [] cs separator

theorem words_separators_append {front : List Char}
    (separators : ∀ c ∈ front, isSeparator c = true) (cs : List Char) :
    words (front ++ cs) = words cs := by
  induction front with
  | nil => rfl
  | cons c front ih =>
    rw [List.cons_append, words_cons_separator (separators c List.mem_cons_self)]
    exact ih fun d member => separators d (List.mem_cons_of_mem c member)

theorem words_of_separators {cs : List Char} (separators : ∀ c ∈ cs, isSeparator c = true) :
    words cs = [] := by
  have h := words_separators_append separators []
  rwa [List.append_nil] at h

theorem words_append_separators (cs : List Char) {back : List Char}
    (separators : ∀ c ∈ back, isSeparator c = true) : words (cs ++ back) = words cs := by
  cases back with
  | nil => rw [List.append_nil]
  | cons c back =>
    have none : words back = [] :=
      words_of_separators fun d member => separators d (List.mem_cons_of_mem c member)
    rw [words_append_separator cs back (separators c List.mem_cons_self), none, List.append_nil]

/-! ## The first word -/

/-- `word` is the first word of `text`: at most separators stand before it, and a separator stands right
after it unless the text ends there. -/
def FirstWord (text word : List Char) : Prop :=
  ∃ front back, text = front ++ word ++ back ∧ word ≠ [] ∧
    (∀ c ∈ front, isSeparator c = true) ∧ (∀ c ∈ word, isSeparator c = false) ∧
    ∀ c ∈ back.head?, isSeparator c = true

theorem wordsFrom_of_noSeparator (run : List Char) {word : List Char}
    (noSeparator : ∀ c ∈ word, isSeparator c = false) :
    wordsFrom run word = wordsFrom (word.reverse ++ run) [] := by
  induction word generalizing run with
  | nil => rfl
  | cons c word ih =>
    have first : isSeparator c = false := noSeparator c List.mem_cons_self
    have rest := ih (c :: run) fun d member => noSeparator d (List.mem_cons_of_mem c member)
    simp only [wordsFrom, first, Bool.false_eq_true, if_false, List.reverse_cons, List.append_assoc,
      List.singleton_append] at rest ⊢
    exact rest

theorem words_of_noSeparator {word : List Char} (some : word ≠ [])
    (noSeparator : ∀ c ∈ word, isSeparator c = false) : words word = [word] := by
  rw [words, wordsFrom_of_noSeparator [] noSeparator]
  simp [wordsFrom, some]

theorem FirstWord.head?_words {text word : List Char} (first : FirstWord text word) :
    (words text).head? = some word := by
  obtain ⟨front, back, rfl, some, before, inside, after⟩ := first
  have alone : words word = [word] := words_of_noSeparator some inside
  rw [List.append_assoc, words_separators_append before]
  cases back with
  | nil => rw [List.append_nil, alone, List.head?_cons]
  | cons c back =>
    rw [words_append_separator word back (after c rfl), alone, List.singleton_append,
      List.head?_cons]

theorem FirstWord.not_separators {text word : List Char} (first : FirstWord text word) :
    ¬ ∀ c ∈ text, isSeparator c = true := by
  intro separators
  have head := first.head?_words
  rw [words_of_separators separators] at head
  cases head

/-- What stands between the leading separators and the next separator is the first word. -/
theorem firstWord_takeWhile {text rest : List Char} {c : Char}
    (dropped : text.dropWhile isSeparator = c :: rest) :
    FirstWord text ((c :: rest).takeWhile fun d => !isSeparator d) := by
  have starts : isSeparator c = false := by
    have head := List.head?_dropWhile_not isSeparator text
    rwa [dropped] at head
  refine ⟨text.takeWhile isSeparator, (c :: rest).dropWhile fun d => !isSeparator d,
    ?_, ?_, ?_, ?_, ?_⟩
  · rw [List.append_assoc, List.takeWhile_append_dropWhile, ← dropped,
      List.takeWhile_append_dropWhile]
  · simp [starts]
  · exact fun d member => List.mem_takeWhile_imp member
  · intro d member
    simpa using List.mem_takeWhile_imp member
  · intro d member
    have head := List.head?_dropWhile_not (fun d => !isSeparator d) (c :: rest)
    rw [Option.mem_def.1 member] at head
    simpa using head

theorem separators_or_exists_firstWord (text : List Char) :
    (∀ c ∈ text, isSeparator c = true) ∨ ∃ word, FirstWord text word := by
  cases dropped : text.dropWhile isSeparator with
  | nil => exact .inl (List.dropWhile_eq_nil_iff.1 dropped)
  | cons c rest => exact .inr ⟨_, firstWord_takeWhile dropped⟩

theorem words_head?_eq_none_iff (text : List Char) :
    (words text).head? = none ↔ ∀ c ∈ text, isSeparator c = true := by
  rcases separators_or_exists_firstWord text with separators | ⟨word, first⟩
  · rw [words_of_separators separators]
    exact iff_of_true rfl separators
  · rw [first.head?_words]
    exact iff_of_false nofun first.not_separators

theorem words_head?_eq_some_iff (text word : List Char) :
    (words text).head? = some word ↔ FirstWord text word := by
  constructor
  · intro head
    rcases separators_or_exists_firstWord text with separators | ⟨other, first⟩
    · rw [words_of_separators separators] at head
      cases head
    · obtain rfl : other = word := Option.some.inj (first.head?_words.symm.trans head)
      exact first
  · exact FirstWord.head?_words

theorem not_firstWord_nil (word : List Char) : ¬ FirstWord [] word := by
  intro first
  cases first.head?_words

/-- The first word of two texts with a separator between them is that of the left one, if it has any. -/
theorem firstWord_append_separator_iff (left right word : List Char) {c : Char}
    (separator : isSeparator c = true) :
    FirstWord (left ++ c :: right) word ↔
      FirstWord left word ∨ (∀ d ∈ left, isSeparator d = true) ∧ FirstWord right word := by
  rw [← words_head?_eq_some_iff, words_append_separator left right separator]
  rcases separators_or_exists_firstWord left with separators | ⟨found, first⟩
  · have none : ¬ FirstWord left word := fun first => first.not_separators separators
    rw [words_of_separators separators, List.nil_append, words_head?_eq_some_iff, or_iff_right none,
      and_iff_right separators]
  · rw [or_iff_left fun both => first.not_separators both.1, ← words_head?_eq_some_iff, List.head?_append,
      first.head?_words, Option.some_or]

/-! ## All words -/

/-- A character that parts words: white space, or one of `- ; . / '`. -/
def PartsWords (c : Char) : Prop := isBlank c = true ∨ c ∈ ['-', ';', '.', '/', '\'']

theorem isSeparator_iff (c : Char) : isSeparator c = true ↔ PartsWords c := by
  rw [isSeparator, Bool.or_eq_true, List.contains_iff_mem]
  rfl

/-- `word` stands in `text` from place `start` on. It has at least one character, none of them parts words,
and it cannot go on at either side: there is an end of the text, or a character that parts words. -/
def WordAt (text : List Char) (start : Nat) (word : List Char) : Prop :=
  ∃ front back, text = front ++ word ++ back ∧ front.length = start ∧ word ≠ [] ∧
    (∀ c ∈ word, ¬ PartsWords c) ∧ (∀ c ∈ front.getLast?, PartsWords c) ∧
      ∀ c ∈ back.head?, PartsWords c

/-- `found` holds the words of `text` with their places: all of them, in order, and each place once. -/
structure Finds (text : List Char) (found : List (Nat × List Char)) : Prop where
  ordered : found.Pairwise fun a b => a.1 < b.1
  mem_iff : ∀ start word, (start, word) ∈ found ↔ WordAt text start word

/-- A piece of a list that does not hold `c` stands on one side of `c`. -/
theorem append_eq_append_cons_iff {α : Type} {c : α} {piece : List α} (absent : c ∉ piece)
    (front back left right : List α) :
    front ++ piece ++ back = left ++ c :: right ↔
      (∃ tail, left = front ++ piece ++ tail ∧ back = tail ++ c :: right) ∨
        ∃ init, front = left ++ c :: init ∧ right = init ++ piece ++ back := by
  constructor
  · intro text
    rcases List.append_eq_append_iff.1 text with ⟨tail, before, after⟩ | ⟨tail, before, after⟩
    · exact .inl ⟨tail, before, after⟩
    · cases tail with
      | nil => exact .inl ⟨[], by simpa using before.symm, after.symm⟩
      | cons d tail =>
        obtain ⟨rfl, rfl⟩ := List.cons.inj after
        -- the piece does not go over the character, so it starts behind it
        rcases List.append_eq_append_iff.1 before with ⟨beyond, -, inside⟩ | ⟨beyond, inFront, behind⟩
        · exact absurd (by simp [inside]) absent
        · cases beyond with
          | nil =>
            have inPiece : c ∈ [] ++ piece := by
              rw [← behind]
              exact List.mem_cons_self
            exact absurd inPiece absent
          | cons e beyond =>
            obtain ⟨rfl, rfl⟩ := List.cons.inj behind
            exact .inr ⟨beyond, inFront, rfl⟩
  · rintro (⟨tail, rfl, rfl⟩ | ⟨init, rfl, rfl⟩) <;> simp

section

variable {c : Char} (parts : PartsWords c)

include parts

theorem forall_head?_append_cons (back rest : List Char) :
    (∀ d ∈ (back ++ c :: rest).head?, PartsWords d) ↔ ∀ d ∈ back.head?, PartsWords d := by
  cases back with
  | nil => simpa using parts
  | cons d back => rfl

theorem forall_getLast?_append_cons (rest front : List Char) :
    (∀ d ∈ (rest ++ c :: front).getLast?, PartsWords d) ↔ ∀ d ∈ front.getLast?, PartsWords d := by
  have backwards := forall_head?_append_cons parts front.reverse rest.reverse
  rw [← List.head?_reverse, ← List.head?_reverse]
  simpa using backwards

/-- Every word of two texts with such a character between them is a word of one of them. -/
theorem wordAt_append_cons_iff (left right : List Char) (start : Nat) (word : List Char) :
    WordAt (left ++ c :: right) start word ↔
      WordAt left start word ∨ ∃ place, start = left.length + 1 + place ∧ WordAt right place word := by
  constructor
  · rintro ⟨front, back, text, rfl, some, inside, before, after⟩
    have absent : c ∉ word := fun member => inside c member parts
    rcases (append_eq_append_cons_iff absent ..).1 text.symm with ⟨tail, rfl, rfl⟩ | ⟨init, rfl, rfl⟩
    · rw [forall_head?_append_cons parts] at after
      exact .inl ⟨front, tail, rfl, rfl, some, inside, before, after⟩
    · rw [forall_getLast?_append_cons parts] at before
      refine .inr ⟨init.length, ?_, init, back, rfl, rfl, some, inside, before, after⟩
      rw [List.length_append, List.length_cons]
      omega
  · rintro (⟨front, back, rfl, rfl, some, inside, before, after⟩ |
      ⟨place, rfl, front, back, rfl, rfl, some, inside, before, after⟩)
    · refine ⟨front, back ++ c :: right, by simp, rfl, some, inside, before, ?_⟩
      rwa [forall_head?_append_cons parts]
    · refine ⟨left ++ c :: front, back, by simp, ?_, some, inside, ?_, after⟩
      · rw [List.length_append, List.length_cons]
        omega
      · rwa [forall_getLast?_append_cons parts]

end

theorem WordAt.start_lt {text word : List Char} {start : Nat} (here : WordAt text start word) :
    start < text.length := by
  obtain ⟨front, back, rfl, rfl, some, -⟩ := here
  have positive := List.length_pos_iff.2 some
  rw [List.length_append, List.length_append]
  omega

theorem finds_nil : Finds [] [] where
  ordered := .nil
  mem_iff start word := by
    refine iff_of_false (by simp) ?_
    intro here
    exact Nat.not_lt_zero start here.start_lt

theorem finds_word {word : List Char} (some : word ≠ []) (inside : ∀ c ∈ word, ¬ PartsWords c) :
    Finds word [(0, word)] where
  ordered := List.pairwise_singleton ..
  mem_iff start other := by
    rw [List.mem_singleton, Prod.mk.injEq]
    constructor
    · rintro ⟨rfl, rfl⟩
      exact ⟨[], [], by simp, rfl, some, inside, by simp, by simp⟩
    · rintro ⟨front, back, text, rfl, -, -, before, after⟩
      have noFront : front = [] := by
        rw [← List.getLast?_eq_none_iff, Option.eq_none_iff_forall_not_mem]
        intro c last
        exact inside c (by simp [text, List.mem_of_getLast? last]) (before c last)
      have noBack : back = [] := by
        rw [← List.head?_eq_none_iff, Option.eq_none_iff_forall_not_mem]
        intro c head
        exact inside c (by simp [text, List.mem_of_head? head]) (after c head)
      rw [text, noFront, noBack]
      simp

theorem Finds.append_cons {left right : List Char} {before after : List (Nat × List Char)} {c : Char}
    (inLeft : Finds left before) (parts : PartsWords c) (inRight : Finds right after) :
    Finds (left ++ c :: right)
      (before ++ after.map fun found => (left.length + 1 + found.1, found.2)) where
  ordered := by
    rw [List.pairwise_append, List.pairwise_map]
    refine ⟨inLeft.ordered, inRight.ordered.imp fun less => Nat.add_lt_add_left less _, ?_⟩
    intro first inFront second behind
    obtain ⟨found, -, rfl⟩ := List.mem_map.1 behind
    have inside := ((inLeft.mem_iff first.1 first.2).1 inFront).start_lt
    simp only
    omega
  mem_iff start word := by
    rw [wordAt_append_cons_iff parts, List.mem_append, inLeft.mem_iff, List.mem_map]
    refine or_congr_right ?_
    constructor
    · rintro ⟨⟨place, other⟩, member, same⟩
      obtain ⟨rfl, rfl⟩ := Prod.mk.inj same
      exact ⟨place, rfl, (inRight.mem_iff place other).1 member⟩
    · rintro ⟨place, rfl, here⟩
      exact ⟨(place, word), (inRight.mem_iff place word).2 here, rfl⟩

theorem exists_finds_run {run : List Char} (inside : ∀ c ∈ run, ¬ PartsWords c) :
    ∃ found, Finds run.reverse found ∧ wordsFrom run [] = found.map Prod.snd := by
  cases run with
  | nil => exact ⟨[], finds_nil, rfl⟩
  | cons d run =>
    refine ⟨[(0, (d :: run).reverse)], finds_word (by simp) ?_, by simp [wordsFrom]⟩
    intro c member
    exact inside c (List.mem_reverse.1 member)

/-- What the scan collects are the words of the run that is open and the text after it. -/
theorem exists_finds_wordsFrom (run : List Char) (inside : ∀ c ∈ run, ¬ PartsWords c)
    (cs : List Char) :
    ∃ found, Finds (run.reverse ++ cs) found ∧ wordsFrom run cs = found.map Prod.snd := by
  induction cs generalizing run with
  | nil =>
    rw [List.append_nil]
    exact exists_finds_run inside
  | cons c cs ih =>
    by_cases separator : isSeparator c = true
    · -- the run ends here, and what follows starts with none
      obtain ⟨before, inRun, first⟩ := exists_finds_run inside
      obtain ⟨after, inRest, others⟩ := ih [] (by simp)
      refine ⟨_, inRun.append_cons ((isSeparator_iff c).1 separator) inRest, ?_⟩
      have parted := wordsFrom_append_separator run [] cs separator
      rw [List.nil_append] at parted
      rw [parted, first, words, others, List.map_append, List.map_map]
      rfl
    · have goesOn : ∀ d ∈ c :: run, ¬ PartsWords d := by
        intro d member
        rcases List.mem_cons.1 member with rfl | before
        · rwa [← isSeparator_iff]
        · exact inside d before
      obtain ⟨found, finds, same⟩ := ih (c :: run) goesOn
      rw [List.reverse_cons, List.append_assoc, List.singleton_append] at finds
      refine ⟨found, finds, ?_⟩
      rw [wordsFrom, if_neg separator]
      exact same

/-- The words of a text are its longest pieces in which no character parts words: all of them, in order and
as often as they are there. So they are those before and those after any character that parts words, a word
has no words but itself, and a dash in front of a text adds none. -/
theorem words_exactly_maximal (text : List Char) :
    (∃ found, Finds text found ∧ words text = found.map Prod.snd) ∧
      (∀ front back c, PartsWords c → words (front ++ c :: back) = words front ++ words back) ∧
      (∀ word ∈ words text, words word = [word]) ∧ words ([' ', '-', ' '] ++ text) = words text := by
  obtain ⟨found, finds, same⟩ := exists_finds_wordsFrom [] (by simp) text
  refine ⟨⟨found, finds, same⟩, ?_, ?_, ?_⟩
  · intro front back c parts
    exact words_append_separator front back ((isSeparator_iff c).2 parts)
  · intro word member
    rw [words, same] at member
    obtain ⟨⟨start, other⟩, here, rfl⟩ := List.mem_map.1 member
    obtain ⟨front, back, -, -, some, inside, -⟩ := (finds.mem_iff start other).1 here
    apply words_of_noSeparator some
    intro c member
    rw [Bool.eq_false_iff, Ne, isSeparator_iff]
    exact inside c member
  · exact words_separators_append (List.all_eq_true.1 (by decide)) text

theorem words_exactly_maximal_mixed :
    PartsWords '\'' ∧
    words (" it".toList ++ '\'' :: "s  a\t-- no;".toList) =
      words " it".toList ++ words "s  a\t-- no;".toList ∧
    "no".toList ∈ words " it's  a\t-- no;".toList ∧ words "no".toList = ["no".toList] := by
  obtain ⟨-, parted, alone, -⟩ := words_exactly_maximal " it's  a\t-- no;".toList
  have quote : PartsWords '\'' := .inr (by decide)
  have member : "no".toList ∈ words " it's  a\t-- no;".toList := by decide
  exact ⟨quote, parted _ _ _ quote, member, alone _ member⟩

end CuratedList.Text
