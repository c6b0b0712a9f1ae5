import CuratedList.Entry.Ending
import CuratedList.Proofs.Text.Words
import Mathlib.Data.List.Basic
import Mathlib.Data.List.TakeWhile

/-! # Lone code spans

A lone code span is a text between two fences of as many backticks each, with no run of just as many
backticks in it, and then only marks. The test measures the backticks at the two ends of a text, whatever
stands between, and then takes the part between them by its offsets. It finds exactly the lone code spans
(`isSingleCodeSpan_iff`), because a text that is not backticks alone has only one part between those at its
ends; and no text makes it fail (`code_span_answer_exact`), those included where the ends overlap.
-/

namespace CuratedList
set_option autoImplicit false

open Text

/-- As many backticks. -/
def ticks (n : Nat) : List Char := List.replicate n '`'

/-- The text has a maximal run of `n` backticks. -/
def HasRun (n : Nat) (text : List Char) : Prop :=
  ∃ front back, text = front ++ ticks n ++ back ∧ front.getLast? ≠ some '`' ∧ back.head? ≠ some '`'

/-- The text is not empty and has no backtick at either end. -/
structure Unticked (text : List Char) : Prop where
  nonempty : text ≠ []
  head : text.head? ≠ some '`'
  last : text.getLast? ≠ some '`'

/-- The text is one code span, with marks after it or not. -/
def LoneCodeSpan (text : List Char) : Prop :=
  ∃ n inner marks, text = ticks n ++ inner ++ ticks n ++ marks ∧ 0 < n ∧ Unticked inner ∧
    ¬ HasRun n inner ∧ ∀ c ∈ marks, isTerminalMark c = true

/-! ## Runs of backticks -/

theorem ticks_succ (n : Nat) : ticks (n + 1) = ticks n ++ ['`'] := List.replicate_succ'

theorem byteLength_ticks (n : Nat) : byteLength (ticks n) = n := by
  induction n with
  | zero => rfl
  | succ n ih =>
    rw [ticks_succ, byteLength_append, ih]
    rfl

theorem hasRun_ticks_iff (n run : Nat) : HasRun n (ticks run) ↔ n = run := by
  constructor
  · rintro ⟨front, back, text, before, after⟩
    have member {part : List Char} (inside : part ⊆ ticks run) {c : Char} (here : c ∈ part) : c = '`' :=
      (List.mem_replicate.1 (inside here)).2
    have noFront : front = [] := by
      by_contra some
      apply before
      rw [List.getLast?_eq_some_getLast some]
      exact congrArg Option.some (member (by simp [text]) (List.getLast_mem some))
    have noBack : back = [] := by
      by_contra some
      apply after
      rw [List.head?_eq_some_head some]
      exact congrArg Option.some (member (by simp [text]) (List.head_mem some))
    have lengths := congrArg List.length text
    simpa [noFront, noBack, ticks] using lengths.symm
  · rintro rfl
    exact ⟨[], [], by simp, by simp, by simp⟩

section

variable {c : Char} (noTick : c ≠ '`')

include noTick

theorem head?_ne_tick_append_cons (back rest : List Char) :
    (back ++ c :: rest).head? ≠ some '`' ↔ back.head? ≠ some '`' := by
  cases back with
  | nil => simpa using noTick
  | cons d back => rfl

theorem getLast?_ne_tick_append_cons (rest front : List Char) :
    (rest ++ c :: front).getLast? ≠ some '`' ↔ front.getLast? ≠ some '`' := by
  have backwards := head?_ne_tick_append_cons noTick front.reverse rest.reverse
  rw [← List.head?_reverse, ← List.head?_reverse]
  simpa using backwards

/-- A run of backticks stands on one side of any other character. -/
theorem hasRun_append_cons_iff (n : Nat) (xs ys : List Char) :
    HasRun n (xs ++ c :: ys) ↔ HasRun n xs ∨ HasRun n ys := by
  constructor
  · rintro ⟨front, back, text, before, after⟩
    have absent : c ∉ ticks n := fun member => noTick (List.mem_replicate.1 member).2
    rcases (append_eq_append_cons_iff absent ..).1 text.symm with ⟨tail, left, rfl⟩ | ⟨init, rfl, right⟩
    · rw [head?_ne_tick_append_cons noTick] at after
      exact .inl ⟨front, tail, left, before, after⟩
    · rw [getLast?_ne_tick_append_cons noTick] at before
      exact .inr ⟨init, back, right, before, after⟩
  · rintro (⟨front, back, rfl, before, after⟩ | ⟨front, back, rfl, before, after⟩)
    · refine ⟨front, back ++ c :: ys, by simp, before, ?_⟩
      rwa [head?_ne_tick_append_cons noTick]
    · refine ⟨xs ++ c :: front, back, by simp, ?_, after⟩
      rwa [getLast?_ne_tick_append_cons noTick]

end

/-- The lengths that are collected are those of the maximal runs. -/
theorem mem_backtickRuns_iff (n run : Nat) (cs : List Char) :
    n ∈ backtickRuns run cs ↔ HasRun n (ticks run ++ cs) := by
  induction cs generalizing run with
  | nil => rw [backtickRuns, List.mem_singleton, List.append_nil, hasRun_ticks_iff]
  | cons c cs ih =>
    unfold backtickRuns
    by_cases tick : c = '`'
    · rw [if_pos tick, ih (run + 1), ticks_succ, tick, List.append_assoc, List.singleton_append]
    · rw [if_neg tick, List.mem_cons, ih 0, hasRun_append_cons_iff tick, hasRun_ticks_iff]
      rfl

/-! ## Fences -/

theorem takeWhile_ticks_append (n : Nat) {rest : List Char} (noTick : rest.head? ≠ some '`') :
    (ticks n ++ rest).takeWhile (· == '`') = ticks n := by
  have all : ∀ c ∈ ticks n, (c == '`') = true := by
    intro c member
    rw [(List.mem_replicate.1 member).2]
    rfl
  rw [List.takeWhile_append_of_pos all]
  cases rest with
  | nil => simp
  | cons c rest =>
    have other : c ≠ '`' := by simpa using noTick
    rw [List.takeWhile_cons_of_neg (by simpa using other), List.append_nil]

theorem reverse_ticks (n : Nat) : (ticks n).reverse = ticks n := List.reverse_replicate

theorem takeWhileEnd_append_ticks (n : Nat) {rest : List Char} (noTick : rest.getLast? ≠ some '`') :
    takeWhileEnd (· == '`') (rest ++ ticks n) = ticks n := by
  have backwards : rest.reverse.head? ≠ some '`' := by rwa [List.head?_reverse]
  unfold takeWhileEnd
  rw [List.reverse_append, reverse_ticks, takeWhile_ticks_append n backwards, reverse_ticks]

theorem dropWhileEnd_append_ticks (n : Nat) {rest : List Char} (noTick : rest.getLast? ≠ some '`') :
    dropWhileEnd (· == '`') (rest ++ ticks n) = rest := by
  have whole := dropWhileEnd_append_takeWhileEnd (· == '`') (rest ++ ticks n)
  rw [takeWhileEnd_append_ticks n noTick] at whole
  exact List.append_cancel_right whole

theorem takeWhile_tick (text : List Char) :
    text.takeWhile (· == '`') = ticks (text.takeWhile (· == '`')).length := by
  rw [ticks, List.eq_replicate_iff]
  refine ⟨rfl, fun c member => ?_⟩
  simpa using List.mem_takeWhile_imp member

theorem exists_ticks_append (text : List Char) :
    ∃ n rest, text = ticks n ++ rest ∧ rest.head? ≠ some '`' := by
  refine ⟨(text.takeWhile (· == '`')).length, text.dropWhile (· == '`'), ?_, ?_⟩
  · rw [← takeWhile_tick, List.takeWhile_append_dropWhile]
  · intro head
    have stopped := List.head?_dropWhile_not (· == '`') text
    rw [head] at stopped
    simp at stopped

/-- A text is backticks alone, or it has one part between the backticks at its ends. -/
theorem ticks_or_exists_fences (text : List Char) :
    (∃ n, text = ticks n) ∨
      ∃ n inner m, text = ticks n ++ inner ++ ticks m ∧ Unticked inner := by
  obtain ⟨n, rest, rfl, head⟩ := exists_ticks_append text
  obtain ⟨m, back, backwards, last⟩ := exists_ticks_append rest.reverse
  have forwards : rest = back.reverse ++ ticks m := by
    rw [← reverse_ticks, ← List.reverse_append, ← backwards, List.reverse_reverse]
  by_cases none : back = []
  · left
    rw [none, List.reverse_nil, List.nil_append] at forwards
    cases m with
    | zero => exact ⟨n, by rw [forwards, ticks, ticks, List.replicate_zero, List.append_nil]⟩
    | succ m => exact absurd (by rw [forwards]; rfl) head
  · right
    have some : back.reverse ≠ [] := by rwa [Ne, List.reverse_eq_nil_iff]
    refine ⟨n, back.reverse, m, by rw [forwards, List.append_assoc], some, ?_, ?_⟩
    · rwa [forwards, List.head?_append_of_ne_nil _ some] at head
    · rwa [List.getLast?_reverse]

/-! ## The test -/

/-- Between fences the test compares their lengths, and then looks for a run of this length. -/
theorem isSingleCodeSpan_fences_iff (n m : Nat) {inner marks : List Char} (unticked : Unticked inner)
    (unmarked : ∀ c ∈ (ticks n ++ inner ++ ticks m).getLast?, isTerminalMark c = false)
    (allMarks : ∀ c ∈ marks, isTerminalMark c = true) :
    isSingleCodeSpan (ticks n ++ inner ++ ticks m ++ marks) = true ↔
      0 < n ∧ n = m ∧ ¬ HasRun n inner := by
  have body : dropWhileEnd isTerminalMark (ticks n ++ inner ++ ticks m ++ marks) =
      ticks n ++ inner ++ ticks m := by
    rw [dropWhileEnd_append _ allMarks, dropWhileEnd_of_getLast? unmarked]
  have opening : (ticks n ++ inner ++ ticks m).takeWhile (· == '`') = ticks n := by
    rw [List.append_assoc]
    apply takeWhile_ticks_append
    rw [List.head?_append_of_ne_nil _ unticked.nonempty]
    exact unticked.head
  have last : (ticks n ++ inner).getLast? ≠ some '`' := by
    rw [List.getLast?_append_of_ne_nil _ unticked.nonempty]
    exact unticked.last
  have closing : takeWhileEnd (· == '`') (ticks n ++ inner ++ ticks m) = ticks m :=
    takeWhileEnd_append_ticks m last
  have before : dropWhileEnd (· == '`') (ticks n ++ inner ++ ticks m) = ticks n ++ inner :=
    dropWhileEnd_append_ticks m last
  have taken : slice? (ticks n ++ inner ++ ticks m) n (byteLength (ticks n ++ inner)) = some inner :=
    slice?_eq_some_iff.2 ⟨ticks n, ticks m, rfl, byteLength_ticks n, rfl⟩
  have size : byteLength (ticks n ++ inner ++ ticks m) = n + byteLength inner + m := by
    rw [byteLength_append, byteLength_append, byteLength_ticks, byteLength_ticks]
  have runs : (backtickRuns 0 inner).contains n = true ↔ HasRun n inner := by
    rw [List.contains_iff_mem]
    exact mem_backtickRuns_iff n 0 inner
  have positive : 0 < byteLength inner := byteLength_pos unticked.nonempty
  rw [isSingleCodeSpan_eq_iff, isSingleCodeSpan?_eq]
  simp only [body, opening, closing, before, byteLength_ticks, size, taken, Option.map_some]
  split
  next outside =>
    refine iff_of_false (by simp) ?_
    rintro ⟨some, rfl, -⟩
    omega
  next fenced =>
    rw [Option.some.injEq, Bool.not_eq_true', Bool.eq_false_iff, Ne, runs]
    constructor
    · intro apart
      exact ⟨by omega, by omega, apart⟩
    · exact fun both => both.2.2

/-- Backticks alone are no code span: one fence would overlap the other. -/
theorem isSingleCodeSpan_ticks (n : Nat) {marks : List Char}
    (unmarked : ∀ c ∈ (ticks n).getLast?, isTerminalMark c = false)
    (allMarks : ∀ c ∈ marks, isTerminalMark c = true) : isSingleCodeSpan (ticks n ++ marks) = false := by
  have body : dropWhileEnd isTerminalMark (ticks n ++ marks) = ticks n := by
    rw [dropWhileEnd_append _ allMarks, dropWhileEnd_of_getLast? unmarked]
  have noMore : ([] : List Char).head? ≠ some '`' := by simp
  have opening : (ticks n).takeWhile (· == '`') = ticks n := by
    simpa using takeWhile_ticks_append n noMore
  have short : n ≤ n * 2 := by omega
  rw [isSingleCodeSpan_eq_iff, isSingleCodeSpan?_eq]
  simp only [body, opening, byteLength_ticks, short, or_true, if_true]

/-- The test accepts exactly the lone code spans. -/
theorem isSingleCodeSpan_iff (text : List Char) :
    isSingleCodeSpan text = true ↔ LoneCodeSpan text := by
  constructor
  · intro found
    have split := dropWhileEnd_append_takeWhileEnd isTerminalMark text
    have unmarked := forall_getLast?_dropWhileEnd isTerminalMark text
    have allMarks := forall_mem_takeWhileEnd isTerminalMark text
    generalize dropWhileEnd isTerminalMark text = body at split unmarked
    generalize takeWhileEnd isTerminalMark text = marks at split allMarks
    subst split
    rcases ticks_or_exists_fences body with ⟨n, rfl⟩ | ⟨n, inner, m, rfl, unticked⟩
    · rw [isSingleCodeSpan_ticks n unmarked allMarks] at found
      cases found
    · obtain ⟨some, rfl, apart⟩ := (isSingleCodeSpan_fences_iff n m unticked unmarked allMarks).1 found
      exact ⟨n, inner, marks, rfl, some, unticked, apart, allMarks⟩
  · rintro ⟨n, inner, marks, rfl, some, unticked, apart, allMarks⟩
    have unmarked : ∀ c ∈ (ticks n ++ inner ++ ticks n).getLast?, isTerminalMark c = false := by
      obtain ⟨k, rfl⟩ : ∃ k, n = k + 1 := Nat.exists_eq_succ_of_ne_zero some.ne'
      intro c last
      have tick : (ticks (k + 1) ++ inner ++ ticks (k + 1)).getLast? = Option.some '`' := by
        rw [ticks_succ, ← List.append_assoc, List.getLast?_concat]
      rw [tick] at last
      cases last
      decide
    exact (isSingleCodeSpan_fences_iff n n unticked unmarked allMarks).2 ⟨some, rfl, apart⟩

/-- The test comes to an answer on every text, and this is whether the text is a lone code span. -/
theorem code_span_answer_exact (text : List Char) :
    ∃ answer, isSingleCodeSpan? text = some answer ∧ (answer = true ↔ LoneCodeSpan text) :=
  ⟨isSingleCodeSpan text, isSingleCodeSpan?_eq_some text, isSingleCodeSpan_iff text⟩

example : isSingleCodeSpan? "``a`b``!".toList = some true ∧ isSingleCodeSpan? "```…".toList = some false := by
  decide +kernel

end CuratedList
