import CuratedList.Toml.Token
import CuratedList.Toml.Writer

/-! # Texts in quotes

A text is written in one of four kinds of quotes, and reads back as the same text in each of them
(`textAfter_writtenText`). Between double quotes every character has a form that the reader takes for it
(`CharForm`). Between single quotes there are no such forms, and the writer chooses them only for texts that
need none.

In a block quotes of the text can stand right before the closing ones. The reader closes a block at the first
three, and adds up to two that follow; the writer leaves no more than two in a row.
-/

namespace CuratedList.Toml
set_option autoImplicit false

/-! ## Characters between double quotes -/

/-- Between double quotes `form` is read as the character `c`: it is `c` itself, or a backslash and an
escape, which joins no lines. -/
inductive CharForm (block : Bool) (c : Char) : List Char → Prop
  | plain (noEscape : c ≠ '\\') (noQuote : c ≠ '"')
      (fits : isPlain c = true ∨ block = true ∧ c = '\n') : CharForm block c [c]
  | escape {d : Char} {ds : List Char} (noBlank : isBlank d = false) (noLineEnd : d ≠ '\n' ∧ d ≠ '\r')
      (read : ∀ rest, escape? (d :: ds ++ rest) = some (c, rest)) : CharForm block c ('\\' :: d :: ds)

theorem hexadecimal_four :
    ∀ n < 128, ((Text.hexadecimal 4 n).map Char.toUpper).length = 4 ∧
      ((Text.hexadecimal 4 n).map Char.toUpper).all (isDigitOf 16) = true ∧
      digitsValue 16 ((Text.hexadecimal 4 n).map Char.toUpper) = n := by
  decide +kernel

theorem codePoint?_hexadecimal {c : Char} (small : c.toNat < 128) (rest : List Char) :
    codePoint? 4 ((Text.hexadecimal 4 c.toNat).map Char.toUpper ++ rest) = some (c, rest) := by
  obtain ⟨length, digits, value⟩ := hexadecimal_four c.toNat small
  have valid : c.toNat.isValidChar := Or.inl (by omega)
  rw [codePoint?, List.take_left' length, List.drop_left' length, value, length, digits,
    Char.ofNat_toNat]
  simp [valid]

theorem charForm_quote (block : Bool) : CharForm block '"' ['\\', '"'] :=
  .escape (by decide) (by decide) fun _ => rfl

/-- Each character but the double quote is written in a form that is read as it. -/
theorem charForm_escapedChar (block : Bool) {c : Char} (noQuote : c ≠ '"') :
    CharForm block c (escapedChar block c) := by
  unfold escapedChar
  split
  case h_1 | h_2 | h_4 | h_5 | h_6 => exact .escape (by decide) (by decide) fun _ => rfl
  case h_3 =>
    cases block with
    | true => exact .plain (by decide) (by decide) (.inr ⟨rfl, rfl⟩)
    | false => exact .escape (by decide) (by decide) fun _ => rfl
  case h_7 noEscape =>
    split
    next control =>
      have small : c.toNat < 128 := by
        simp only [Bool.or_eq_true, decide_eq_true_eq] at control
        omega
      exact .escape (by decide) (by decide) fun rest => codePoint?_hexadecimal small rest
    next shown =>
      refine .plain noEscape noQuote (.inl ?_)
      simp only [Bool.or_eq_true, decide_eq_true_eq, not_or, Nat.not_lt] at shown
      simp [isPlain, shown]

theorem isPlain_head {c : Char} (plain : isPlain c = true) : c ≠ '\n' ∧ c ≠ '\r' := by
  constructor <;> rintro rfl <;> exact absurd plain (by decide)

/-- What stands for a character starts with no quote, and a line with a line end only if the character is
one. -/
theorem CharForm.head {block : Bool} {c : Char} {form : List Char} (h : CharForm block c form) :
    ∃ d ds, form = d :: ds ∧ d ≠ '"' ∧ (c ≠ '\n' → d ≠ '\n' ∧ d ≠ '\r') := by
  cases h with
  | plain noEscape noQuote fits =>
    refine ⟨c, [], rfl, noQuote, fun noLineEnd => isPlain_head ?_⟩
    exact fits.resolve_right fun lineEnd => noLineEnd lineEnd.2
  | escape => exact ⟨'\\', _, rfl, by decide, fun _ => by decide⟩

/-- The next character of a text is written in a form that stands for it, or it is a quote that a block may
hold as it is. -/
theorem escaped_cons (block : Bool) (run : Nat) (c : Char) (cs : List Char) :
    (∃ form, CharForm block c form ∧ escaped block run (c :: cs) = form ++ escaped block 0 cs) ∨
      c = '"' ∧ block = true ∧ run < 2 ∧
        escaped block run (c :: cs) = '"' :: escaped block (run + 1) cs := by
  rw [escaped]
  by_cases quote : c = '"'
  · subst quote
    rw [if_pos rfl]
    split
    next raw =>
      obtain ⟨inBlock, few⟩ : block = true ∧ run < 2 := by simpa using raw
      exact .inr ⟨rfl, inBlock, few, rfl⟩
    next => exact .inl ⟨_, charForm_quote block, rfl⟩
  · exact .inl ⟨_, charForm_escapedChar block quote, by rw [if_neg quote]⟩

/-! ## Lines -/

theorem lineText_close (q : Char) (rest : List Char) : lineText q (q :: rest) = some ([], rest) := by
  rw [lineText, if_pos rfl]

theorem lineText_plain {q c : Char} (noQuote : c ≠ q) (noEscape : c = '\\' → q ≠ '"')
    (plain : isPlain c = true) (rest : List Char) :
    lineText q (c :: rest) = (lineText q rest).map fun found => (c :: found.1, found.2) := by
  have literal : ¬ (c = '\\' && q = '"') = true := by simpa using noEscape
  rw [lineText, if_neg noQuote, if_neg literal, if_pos plain]

theorem lineText_charForm {c : Char} {form : List Char} (h : CharForm false c form) (rest : List Char) :
    lineText '"' (form ++ rest) = (lineText '"' rest).map fun found => (c :: found.1, found.2) := by
  cases h with
  | plain noEscape noQuote fits =>
    have plain : isPlain c = true := by simpa using fits
    exact lineText_plain noQuote (fun escape => absurd escape noEscape) plain rest
  | escape noBlank noLineEnd read =>
    have read := read rest
    rw [List.cons_append, lineText, if_neg (by decide), if_pos (by decide)]
    split
    next found => rw [read] at found; cases found; rfl
    next found => rw [read] at found; cases found

theorem lineText_escaped (run : Nat) (cs rest : List Char) :
    lineText '"' (escaped false run cs ++ '"' :: rest) = some (cs, rest) := by
  induction cs generalizing run with
  | nil => exact lineText_close '"' rest
  | cons c cs ih =>
    rcases escaped_cons false run c cs with ⟨form, stands, here⟩ | ⟨-, ⟨⟩, -⟩
    rw [here, List.append_assoc, lineText_charForm stands, ih]
    rfl

theorem lineText_literal {cs : List Char} (noQuote : '\'' ∉ cs) (plain : ∀ c ∈ cs, isPlain c = true)
    (rest : List Char) : lineText '\'' (cs ++ '\'' :: rest) = some (cs, rest) := by
  induction cs with
  | nil => exact lineText_close '\'' rest
  | cons c cs ih =>
    obtain ⟨here, later⟩ := List.forall_mem_cons.1 plain
    have noneHere : c ≠ '\'' := fun same => noQuote (by rw [same]; exact List.mem_cons_self)
    have noneLater : '\'' ∉ cs := fun member => noQuote (List.mem_cons_of_mem c member)
    have kept : c = '\\' → '\'' ≠ '"' := fun _ => by decide
    rw [List.cons_append, lineText_plain noneHere kept here, ih noneLater later]
    rfl

/-! ## Blocks -/

/-- Three quotes close a block, and quotes that follow belong to its text. -/
theorem blockText_close {q : Char} {more : Nat} (few : more ≤ 2) {rest : List Char}
    (apart : rest.head? ≠ some q) :
    blockText q (q :: q :: q :: (List.replicate more q ++ rest)) = some (List.replicate more q, rest) := by
  have extra : ((List.replicate more q ++ rest).take 2).takeWhile (· == q) = List.replicate more q := by
    rw [List.take_append, List.length_replicate, List.take_replicate, Nat.min_eq_right few]
    have ended (n : Nat) : (rest.take n).takeWhile (· == q) = [] := by
      cases rest with
      | nil => rw [List.take_nil, List.takeWhile_nil]
      | cons c cs =>
        cases n with
        | zero => rfl
        | succ n => rw [List.take_succ_cons, List.takeWhile_cons_of_neg (by simpa using apart)]
    simp [ended]
  rw [blockText]
  simp [extra]

theorem blockText_plain {q c : Char} (noQuote : c ≠ q) (noEscape : c = '\\' → q ≠ '"')
    (fits : isPlain c = true ∨ c = '\n') (rest : List Char) :
    blockText q (c :: rest) = (blockText q rest).map fun found => (c :: found.1, found.2) := by
  have literal : ¬ (c = '\\' && q = '"') = true := by simpa using noEscape
  rw [blockText, if_neg (by simp [noQuote]), if_neg literal, if_pos]
  rcases fits with plain | rfl
  · simp [plain]
  · simp

theorem afterLineJoin?_of_head {d : Char} (noBlank : isBlank d = false) (noLineEnd : d ≠ '\n' ∧ d ≠ '\r')
    (ds : List Char) : afterLineJoin? (d :: ds) = none := by
  rw [afterLineJoin?, List.dropWhile_cons_of_neg (by simp [noBlank])]
  split
  next same => exact absurd (List.cons.inj same).1 noLineEnd.1
  next same => exact absurd (List.cons.inj same).1 noLineEnd.2
  next => rfl

theorem blockText_charForm {c : Char} {form : List Char} (h : CharForm true c form) (rest : List Char) :
    blockText '"' (form ++ rest) = (blockText '"' rest).map fun found => (c :: found.1, found.2) := by
  cases h with
  | plain noEscape noQuote fits =>
    have fits : isPlain c = true ∨ c = '\n' := by simpa using fits
    exact blockText_plain noQuote (fun escape => absurd escape noEscape) fits rest
  | escape noBlank noLineEnd read =>
    have read := read rest
    rw [List.cons_append, blockText, if_neg (by simp), if_pos (by decide)]
    split
    next joined => cases (afterLineJoin?_of_head noBlank noLineEnd _).symm.trans joined
    next =>
      split
      next found => rw [read] at found; cases found; rfl
      next found => rw [read] at found; cases found

/-- A quote at the start of a text in a block is read as such if what follows it is, and if two quotes can
only follow where the text ends. -/
theorem blockText_quote {q : Char} (plain : isPlain q = true) (noEscape : q ≠ '\\') {cs body rest : List Char}
    (apart : rest.head? ≠ some q)
    (short : (body ++ q :: q :: q :: rest).take 2 = [q, q] →
      ∃ more ≤ 1, cs = List.replicate more q ∧ body = List.replicate more q)
    (ih : blockText q (body ++ q :: q :: q :: rest) = some (cs, rest)) :
    blockText q (q :: (body ++ q :: q :: q :: rest)) = some (q :: cs, rest) := by
  -- with two quotes after it this quote closes the block, and the text ends with the quotes from here on
  by_cases closing : (body ++ q :: q :: q :: rest).take 2 = [q, q]
  · obtain ⟨more, few, rfl, rfl⟩ := short closing
    have close := blockText_close (Nat.succ_le_succ few) apart
    match more, few with
    | 0, _ | 1, _ => exact close
  · rw [blockText, if_neg (by simpa using closing), if_neg (by simp [noEscape]), if_pos (by simp [plain]), ih]
    rfl

/-- Two quotes right after a written quote are its own text, or close the block. -/
theorem escaped_of_take {run : Nat} (positive : 1 ≤ run) {cs rest : List Char}
    (quotes : (escaped true run cs ++ '"' :: '"' :: '"' :: rest).take 2 = ['"', '"']) :
    ∃ more ≤ 1, cs = List.replicate more '"' ∧ escaped true run cs = List.replicate more '"' := by
  cases cs with
  | nil => exact ⟨0, Nat.zero_le 1, rfl, rfl⟩
  | cons c cs =>
    rcases escaped_cons true run c cs with ⟨form, stands, here⟩ | ⟨rfl, -, few, here⟩
    · obtain ⟨d, ds, rfl, noQuote, -⟩ := stands.head
      rw [here] at quotes
      simp [noQuote] at quotes
    · cases cs with
      | nil => exact ⟨1, Nat.le_refl 1, rfl, here⟩
      | cons e es =>
        -- after two quotes a third one is written with a backslash
        rcases escaped_cons true (run + 1) e es with ⟨form, stands, next⟩ | ⟨-, -, fewer, -⟩
        · obtain ⟨d, ds, rfl, noQuote, -⟩ := stands.head
          rw [here, next] at quotes
          simp [noQuote] at quotes
        · omega

theorem blockText_escaped (run : Nat) (cs : List Char) {rest : List Char}
    (apart : rest.head? ≠ some '"') :
    blockText '"' (escaped true run cs ++ '"' :: '"' :: '"' :: rest) = some (cs, rest) := by
  induction cs generalizing run with
  | nil => exact blockText_close (Nat.zero_le 2) apart
  | cons c cs ih =>
    rcases escaped_cons true run c cs with ⟨form, stands, here⟩ | ⟨rfl, -, -, here⟩
    · rw [here, List.append_assoc, blockText_charForm stands, ih]
      rfl
    · rw [here]
      exact blockText_quote (by decide) (by decide) apart (escaped_of_take (Nat.succ_pos run)) (ih _)

theorem blockText_literal {cs : List Char} (noThree : ¬ ['\'', '\'', '\''] <:+: cs)
    (fits : ∀ c ∈ cs, isPlain c = true ∨ c = '\n') {rest : List Char} (apart : rest.head? ≠ some '\'') :
    blockText '\'' (cs ++ '\'' :: '\'' :: '\'' :: rest) = some (cs, rest) := by
  induction cs with
  | nil => exact blockText_close (Nat.zero_le 2) apart
  | cons c cs ih =>
    obtain ⟨here, later⟩ := List.forall_mem_cons.1 fits
    have ih := ih (fun inside => noThree (inside.trans (List.suffix_cons c cs).isInfix)) later
    by_cases quote : c = '\''
    · subst quote
      refine blockText_quote (by decide) (by decide) apart (fun quotes => ?_) ih
      match cs with
      | [] => exact ⟨0, Nat.zero_le 1, rfl, rfl⟩
      | [d] =>
        obtain rfl : d = '\'' := by simpa using quotes
        exact ⟨1, Nat.le_refl 1, rfl, rfl⟩
      | d :: e :: es =>
        obtain ⟨rfl, rfl⟩ : d = '\'' ∧ e = '\'' := by simpa using quotes
        exact absurd (List.prefix_append ['\'', '\'', '\''] es).isInfix noThree
    · rw [List.cons_append, blockText_plain quote (fun _ => by decide) here, ih]
      rfl

/-! ## The choice of quotes -/

theorem le_longestRun (q : Char) (run longest : Nat) (cs : List Char) :
    longest ≤ longestRun q run longest cs := by
  induction cs generalizing run longest with
  | nil => exact Nat.le_refl longest
  | cons c cs ih =>
    rw [longestRun]
    split
    · exact Nat.le_trans (Nat.le_max_left ..) (ih ..)
    · exact ih ..

theorem run_le_longestRun (q : Char) (run longest n : Nat) (cs : List Char) :
    run + (n + 1) ≤ longestRun q run longest (List.replicate (n + 1) q ++ cs) := by
  induction n generalizing run longest with
  | zero =>
    rw [List.replicate_one, List.singleton_append, longestRun, if_pos rfl]
    exact Nat.le_trans (Nat.le_max_right ..) (le_longestRun ..)
  | succ n ih =>
    rw [List.replicate_succ, List.cons_append, longestRun, if_pos rfl]
    have := ih (run + 1) (max longest (run + 1))
    omega

/-- A run of quotes anywhere in a text counts. -/
theorem length_le_longestRun (q : Char) (run longest n : Nat) {cs : List Char}
    (inside : List.replicate (n + 1) q <:+: cs) : n + 1 ≤ longestRun q run longest cs := by
  obtain ⟨before, after, rfl⟩ := inside
  induction before generalizing run longest with
  | nil =>
    have := run_le_longestRun q run longest n after
    rw [List.nil_append]
    omega
  | cons c before ih =>
    rw [List.cons_append, List.cons_append, longestRun]
    split
    · exact ih ..
    · exact ih ..

theorem isPlain_of_needsEscape {c : Char} (shown : needsEscape c = false) :
    isPlain c = true ∨ c = '\n' := by
  by_cases lineEnd : c = '\n'
  · exact .inr lineEnd
  · simp only [needsEscape, isPlain, Bool.or_eq_false_iff, Bool.and_eq_false_iff, decide_eq_false_iff_not,
      Nat.not_lt, Bool.or_eq_true, Bool.and_eq_true, decide_eq_true_eq, beq_iff_eq, bne_iff_ne,
      beq_eq_false_iff_ne, bne_eq_false_iff_eq, lineEnd, or_false] at shown ⊢
    obtain ⟨visible | tab, noDelete⟩ := shown
    · exact .inr ⟨visible, noDelete⟩
    · exact .inl tab

/-- What a text has to be like for a kind of quotes; double quotes hold every text. -/
def TextStyle.Suits (cs : List Char) : TextStyle → Prop
  | .basic | .basicBlock => True
  | .literal => '\'' ∉ cs ∧ ∀ c ∈ cs, isPlain c = true
  | .literalBlock => ¬ ['\'', '\'', '\''] <:+: cs ∧ ∀ c ∈ cs, isPlain c = true ∨ c = '\n'

theorem suits_ofText (cs : List Char) : (TextStyle.ofText cs).Suits cs := by
  have fits (shown : (!cs.any needsEscape) = true) : ∀ c ∈ cs, isPlain c = true ∨ c = '\n' := by
    intro c member
    refine isPlain_of_needsEscape ?_
    rw [Bool.not_eq_true', List.any_eq_false] at shown
    simpa using shown c member
  simp only [TextStyle.ofText]
  split
  · trivial
  · split
    next literal =>
      simp only [Bool.and_eq_true, decide_eq_true_eq] at literal
      obtain ⟨⟨shown, oneLine⟩, noQuote⟩ := literal
      refine ⟨fun member => ?_, fun c member => ?_⟩
      · obtain ⟨before, after, split⟩ := List.append_of_mem member
        have one : List.replicate (0 + 1) '\'' <:+: cs := ⟨before, after, by rw [split]; simp⟩
        have run := length_le_longestRun '\'' 0 0 0 one
        omega
      · refine (fits shown c member).resolve_right ?_
        rintro rfl
        simp [member] at oneLine
    next =>
      split
      · trivial
      · split
        next block =>
          simp only [Bool.and_eq_true, decide_eq_true_eq] at block
          obtain ⟨shown, few⟩ := block
          refine ⟨fun three => ?_, fits shown⟩
          have run := length_le_longestRun '\'' 0 0 2 three
          omega
        next => split <;> trivial

/-! ## Written texts -/

/-- Is it a kind of block? -/
def TextStyle.isBlock : TextStyle → Bool
  | .basic | .literal => false
  | .basicBlock | .literalBlock => true

/-- The quotes of a kind. -/
def TextStyle.quote : TextStyle → Char
  | .basic | .basicBlock => '"'
  | .literal | .literalBlock => '\''

/-- The token of a text as the writer quotes it. -/
def textToken (cs : List Char) : Token := .text (TextStyle.ofText cs).isBlock cs

theorem textAfter_line {q : Char} {body cs rest : List Char} (noQuote : body.head? ≠ some q)
    (apart : rest.head? ≠ some q) (read : lineText q (body ++ q :: rest) = some (cs, rest)) :
    textAfter q (body ++ q :: rest) = some (.text false cs, rest) := by
  have line : ¬ ((body ++ q :: rest).take 2 == [q, q]) = true := by
    cases body with
    | nil => cases rest with
      | nil => simp
      | cons c cs => simpa using apart
    | cons c body =>
      intro both
      simp at both noQuote
      exact noQuote both.1
  rw [textAfter, if_neg line, read]
  rfl

theorem textAfter_block {q : Char} {start body cs rest : List Char}
    (content : dropLineEnd (start ++ (body ++ q :: q :: q :: rest)) = body ++ q :: q :: q :: rest)
    (read : blockText q (body ++ q :: q :: q :: rest) = some (cs, rest)) :
    textAfter q (q :: q :: (start ++ (body ++ q :: q :: q :: rest))) = some (.text true cs, rest) := by
  rw [textAfter, if_pos (by simp)]
  simp only [List.drop_succ_cons, List.drop_zero, content, read]
  rfl

theorem dropLineEnd_cons {c : Char} (apart : c ≠ '\n' ∧ c ≠ '\r') (cs : List Char) :
    dropLineEnd (c :: cs) = c :: cs := by
  unfold dropLineEnd
  split
  next same => exact absurd (List.cons.inj same).1 apart.1
  next same => exact absurd (List.cons.inj same).1 apart.2
  next => rfl

theorem dropLineEnd_escaped {cs : List Char} (oneLine : '\n' ∉ cs) (rest : List Char) :
    dropLineEnd (escaped true 0 cs ++ '"' :: rest) = escaped true 0 cs ++ '"' :: rest := by
  cases cs with
  | nil => exact dropLineEnd_cons (by decide) rest
  | cons c cs =>
    rcases escaped_cons true 0 c cs with ⟨form, stands, here⟩ | ⟨-, -, -, here⟩
    · obtain ⟨d, ds, rfl, -, apart⟩ := stands.head
      rw [here]
      refine dropLineEnd_cons (apart ?_) _
      rintro rfl
      exact oneLine List.mem_cons_self
    · rw [here]
      exact dropLineEnd_cons (by decide) _

theorem dropLineEnd_literal {cs : List Char} (oneLine : '\n' ∉ cs)
    (fits : ∀ c ∈ cs, isPlain c = true ∨ c = '\n') (rest : List Char) :
    dropLineEnd (cs ++ '\'' :: rest) = cs ++ '\'' :: rest := by
  cases cs with
  | nil => exact dropLineEnd_cons (by decide) rest
  | cons c cs =>
    refine dropLineEnd_cons (isPlain_head ((fits c List.mem_cons_self).resolve_right ?_)) _
    rintro rfl
    exact oneLine List.mem_cons_self

/-- A line end at the start of a block is no part of the text; the writer has put it there. -/
theorem dropLineEnd_start (cs : List Char) {body : List Char}
    (head : '\n' ∉ cs → dropLineEnd body = body) :
    dropLineEnd ((if cs.contains '\n' then ['\n'] else []) ++ body) = body := by
  split
  · rfl
  next oneLine => exact head (by simpa using oneLine)

/-- A text reads back from the quotes it is written in, if no other quote follows them. -/
theorem textAfter_writtenText (cs : List Char) :
    ∃ body, writtenText cs = (TextStyle.ofText cs).quote :: body ∧
      ∀ rest : List Char, rest.head? ≠ some '"' → rest.head? ≠ some '\'' →
        textAfter (TextStyle.ofText cs).quote (body ++ rest) = some (textToken cs, rest) := by
  have suits := suits_ofText cs
  rw [writtenText, textToken]
  cases style : TextStyle.ofText cs with
  | basic =>
    refine ⟨escaped false 0 cs ++ ['"'], rfl, fun rest noDouble _ => ?_⟩
    rw [List.append_assoc, List.singleton_append]
    refine textAfter_line ?_ noDouble (lineText_escaped 0 cs rest)
    cases cs with
    | nil => simp [escaped]
    | cons c cs =>
      rcases escaped_cons false 0 c cs with ⟨form, stands, here⟩ | ⟨-, ⟨⟩, -⟩
      obtain ⟨d, ds, rfl, noQuote, -⟩ := stands.head
      rw [here]
      exact fun same => noQuote (Option.some.inj same)
  | literal =>
    rw [style] at suits
    refine ⟨cs ++ ['\''], rfl, fun rest _ noSingle => ?_⟩
    rw [List.append_assoc, List.singleton_append]
    refine textAfter_line (fun head => suits.1 ?_) noSingle (lineText_literal suits.1 suits.2 rest)
    exact List.mem_of_mem_head? head
  | basicBlock =>
    refine ⟨'"' :: '"' :: ((if cs.contains '\n' then ['\n'] else []) ++ (escaped true 0 cs ++
      ['"', '"', '"'])), by simp [TextStyle.quote], fun rest noDouble _ => ?_⟩
    simp only [List.append_assoc, List.cons_append, List.nil_append]
    exact textAfter_block (dropLineEnd_start cs fun oneLine => dropLineEnd_escaped oneLine _)
      (blockText_escaped 0 cs noDouble)
  | literalBlock =>
    rw [style] at suits
    refine ⟨'\'' :: '\'' :: ((if cs.contains '\n' then ['\n'] else []) ++ (cs ++ ['\'', '\'', '\''])),
      by simp [TextStyle.quote], fun rest _ noSingle => ?_⟩
    simp only [List.append_assoc, List.cons_append, List.nil_append]
    exact textAfter_block (dropLineEnd_start cs fun oneLine => dropLineEnd_literal oneLine suits.2 _)
      (blockText_literal suits.1 suits.2 noSingle)

end CuratedList.Toml
