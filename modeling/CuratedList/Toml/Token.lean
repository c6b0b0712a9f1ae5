import CuratedList.Toml.Scalar

/-! # Tokens of a TOML document

Texts in one of four kinds of quotes, words, punctuation, blanks and line ends. Comments give no token.
-/

namespace CuratedList.Toml
set_option autoImplicit false

/-- A token. A text in triple quotes is a block. -/
inductive Token where
  | lineEnd
  | blank (cs : List Char)
  | dot
  | equals
  | comma
  | openArray
  | closeArray
  | openTable
  | closeTable
  | word (cs : List Char)
  | text (block : Bool) (cs : List Char)
  deriving DecidableEq, Repr

/-- A space or a tab. -/
def isBlank (c : Char) : Bool := c == ' ' || c == '\t'

/-- A character that may stand as it is in texts and comments. -/
def isPlain (c : Char) : Bool := c == '\t' || (0x20 ≤ c.toNat && c.toNat != 0x7F)

/-! ## Escapes -/

/-- The character that a letter after a backslash stands for. -/
def escapeLetter? : Char → Option Char
  | 'b' => some '\x08'
  | 't' => some '\t'
  | 'n' => some '\n'
  | 'f' => some '\x0c'
  | 'r' => some '\r'
  | 'e' => some '\x1b'
  | '"' => some '"'
  | '\\' => some '\\'
  | _ => none

/-- The character whose code point is written in so many hexadecimal digits, and what follows. -/
def codePoint? (width : Nat) (cs : List Char) : Option (Char × List Char) :=
  let digits := cs.take width
  let n := digitsValue 16 digits
  if digits.length == width && digits.all (isDigitOf 16) && decide n.isValidChar then
    some (Char.ofNat n, cs.drop width)
  else none

/-- The character of an escape, given what follows the backslash, and what follows the escape. -/
def escape? : List Char → Option (Char × List Char)
  | [] => none
  | 'x' :: cs => codePoint? 2 cs
  | 'u' :: cs => codePoint? 4 cs
  | 'U' :: cs => codePoint? 8 cs
  | c :: cs => (escapeLetter? c).map fun d => (d, cs)

theorem length_le_of_codePoint? {width : Nat} {cs rest : List Char} {c : Char}
    (h : codePoint? width cs = some (c, rest)) : rest.length ≤ cs.length := by
  simp only [codePoint?] at h
  split at h
  · simp only [Option.some.injEq, Prod.mk.injEq] at h
    rw [← h.2, List.length_drop]
    omega
  · simp at h

theorem length_lt_of_escape? {cs rest : List Char} {c : Char} (h : escape? cs = some (c, rest)) :
    rest.length < cs.length := by
  unfold escape? at h
  split at h
  · simp at h
  · exact Nat.lt_succ_of_le (length_le_of_codePoint? h)
  · exact Nat.lt_succ_of_le (length_le_of_codePoint? h)
  · exact Nat.lt_succ_of_le (length_le_of_codePoint? h)
  · obtain ⟨d, _, hd⟩ := Option.map_eq_some_iff.1 h
    simp only [Prod.mk.injEq] at hd
    simp [← hd.2]

/-! ## Texts -/

/-- The text up to the quote `q` on the same line, and what follows the quote. -/
def lineText (q : Char) (cs : List Char) : Option (List Char × List Char) :=
  match cs with
  | [] => none
  | c :: cs =>
    if c = q then some ([], cs)
    else if c = '\\' && q = '"' then
      match _h : escape? cs with
      | some (d, rest) => (lineText q rest).map fun (text, rest) => (d :: text, rest)
      | none => none
    else if isPlain c then (lineText q cs).map fun (text, rest) => (c :: text, rest)
    else none
  termination_by cs.length
  decreasing_by
    · have := length_lt_of_escape? _h
      simp only [List.length_cons]
      omega
    · simp

theorem length_lt_of_lineText {q : Char} {cs text rest : List Char}
    (h : lineText q cs = some (text, rest)) : rest.length < cs.length := by
  fun_induction lineText q cs generalizing text rest with
  | case1 => cases h
  | case2 cs => cases h; exact Nat.lt_succ_self _
  | case3 c cs _ _ d after escape ih =>
    obtain ⟨⟨_, _⟩, read, same⟩ := Option.map_eq_some_iff.1 h
    cases same
    exact Nat.lt_trans (ih read) (Nat.lt_succ_of_lt (length_lt_of_escape? escape))
  | case4 => cases h
  | case5 c cs _ _ _ ih =>
    obtain ⟨⟨_, _⟩, read, same⟩ := Option.map_eq_some_iff.1 h
    cases same
    exact Nat.lt_succ_of_lt (ih read)
  | case6 => cases h

/-- Without the blanks and line ends at the start. -/
def skipLines : List Char → List Char
  | '\r' :: '\n' :: cs => skipLines cs
  | c :: cs => if isBlank c || c = '\n' then skipLines cs else c :: cs
  | [] => []

theorem length_skipLines_le (cs : List Char) : (skipLines cs).length ≤ cs.length := by
  fun_induction skipLines cs with
  | case1 cs ih => simp only [List.length_cons]; omega
  | case2 c cs _ _ ih => simp only [List.length_cons]; omega
  | case3 => exact Nat.le_refl _
  | case4 => exact Nat.le_refl _

/-- What a backslash at the end of a line leaves, given what follows the backslash. -/
def afterLineJoin? (cs : List Char) : Option (List Char) :=
  match cs.dropWhile isBlank with
  | '\n' :: _ | '\r' :: '\n' :: _ => some (skipLines cs)
  | _ => none

theorem length_le_of_afterLineJoin? {cs rest : List Char} (h : afterLineJoin? cs = some rest) :
    rest.length ≤ cs.length := by
  unfold afterLineJoin? at h
  split at h <;> simp only [Option.some.injEq, reduceCtorEq] at h
  all_goals exact h ▸ length_skipLines_le cs

/-- The text up to three quotes `q`, and what follows them. Up to two more quotes belong to the text. -/
def blockText (q : Char) (cs : List Char) : Option (List Char × List Char) :=
  match cs with
  | [] => none
  | c :: cs =>
    if c = q && cs.take 2 == [q, q] then
      let rest := cs.drop 2
      let extra := (rest.take 2).takeWhile (· == q)
      some (extra, rest.drop extra.length)
    else if c = '\\' && q = '"' then
      match _j : afterLineJoin? cs with
      | some rest => blockText q rest
      | none =>
        match _h : escape? cs with
        | some (d, rest) => (blockText q rest).map fun (text, rest) => (d :: text, rest)
        | none => none
    else if isPlain c || c = '\n' || (c = '\r' && cs.head? = some '\n') then
      (blockText q cs).map fun (text, rest) => (c :: text, rest)
    else none
  termination_by cs.length
  decreasing_by
    · have := length_le_of_afterLineJoin? _j
      simp only [List.length_cons]
      omega
    · have := length_lt_of_escape? _h
      simp only [List.length_cons]
      omega
    · simp

theorem length_lt_of_blockText {q : Char} {cs text rest : List Char}
    (h : blockText q cs = some (text, rest)) : rest.length < cs.length := by
  fun_induction blockText q cs generalizing text rest with
  | case1 => cases h
  | case2 c cs =>
    cases h
    exact Nat.lt_succ_of_le ((List.drop_sublist _ _).trans (List.drop_sublist 2 cs)).length_le
  | case3 c cs _ _ after joined ih =>
    exact Nat.lt_of_lt_of_le (ih h) (Nat.le_succ_of_le (length_le_of_afterLineJoin? joined))
  | case4 c cs _ _ _ d after escape ih =>
    obtain ⟨⟨_, _⟩, read, same⟩ := Option.map_eq_some_iff.1 h
    cases same
    exact Nat.lt_trans (ih read) (Nat.lt_succ_of_lt (length_lt_of_escape? escape))
  | case5 => cases h
  | case6 c cs _ _ _ ih =>
    obtain ⟨⟨_, _⟩, read, same⟩ := Option.map_eq_some_iff.1 h
    cases same
    exact Nat.lt_succ_of_lt (ih read)
  | case7 => cases h

/-- The content of a block starts after a line end that follows its quotes. -/
def dropLineEnd : List Char → List Char
  | '\n' :: cs => cs
  | '\r' :: '\n' :: cs => cs
  | cs => cs

theorem length_dropLineEnd_le (cs : List Char) : (dropLineEnd cs).length ≤ cs.length := by
  unfold dropLineEnd
  split
  · exact Nat.le_succ _
  · exact Nat.le_add_right _ 2
  · exact Nat.le_refl _

/-- The text after an opening quote `q`, whether it is a block, and what follows it. -/
def textAfter (q : Char) (cs : List Char) : Option (Token × List Char) :=
  if cs.take 2 == [q, q] then
    (blockText q (dropLineEnd (cs.drop 2))).map fun (text, rest) => (.text true text, rest)
  else (lineText q cs).map fun (text, rest) => (.text false text, rest)

theorem length_le_of_textAfter {q : Char} {cs rest : List Char} {token : Token}
    (h : textAfter q cs = some (token, rest)) : rest.length ≤ cs.length := by
  unfold textAfter at h
  split at h
  · obtain ⟨⟨_, _⟩, read, same⟩ := Option.map_eq_some_iff.1 h
    cases same
    have block := length_lt_of_blockText read
    have body := length_dropLineEnd_le (cs.drop 2)
    rw [List.length_drop] at body
    omega
  · obtain ⟨⟨_, _⟩, read, same⟩ := Option.map_eq_some_iff.1 h
    cases same
    exact Nat.le_of_lt (length_lt_of_lineText read)

/-! ## Documents -/

/-- What follows a comment, given what follows its mark. -/
def afterComment? (cs : List Char) : Option (List Char) :=
  let body := cs.takeWhile (· != '\n')
  let rest := cs.dropWhile (· != '\n')
  let body := if !rest.isEmpty && body.getLast? = some '\r' then body.dropLast else body
  if body.all isPlain then some rest else none

theorem length_le_of_afterComment? {cs rest : List Char} (h : afterComment? cs = some rest) :
    rest.length ≤ cs.length := by
  simp only [afterComment?, Option.ite_none_right_eq_some, Option.some.injEq] at h
  rw [← h.2]
  exact (List.dropWhile_sublist _).length_le

/-- A character that ends a word. -/
def endsWord (c : Char) : Bool :=
  ['.', '=', ',', '[', ']', Char.ofNat 0x7B, Char.ofNat 0x7D, ' ', '\t', '#', '\r', '\n', '\'',
    '"'].contains c

/-- The token of a punctuation mark. -/
def punctuation? (c : Char) : Option Token :=
  [('.', Token.dot), ('=', .equals), (',', .comma), ('[', .openArray), (']', .closeArray),
    (Char.ofNat 0x7B, .openTable), (Char.ofNat 0x7D, .closeTable), ('\n', .lineEnd)].lookup c

/-- The token or comment at the start of a text, and what follows it. -/
def nextToken (c : Char) (cs : List Char) : Option (List Token × List Char) :=
  if c = '#' then (afterComment? cs).map fun rest => ([], rest)
  else if c = '"' || c = '\'' then (textAfter c cs).map fun (token, rest) => ([token], rest)
  else if c = '\r' then if cs.head? = some '\n' then some ([.lineEnd], cs.drop 1) else none
  else if isBlank c then some ([.blank (c :: cs.takeWhile isBlank)], cs.dropWhile isBlank)
  else
    match punctuation? c with
    | some token => some ([token], cs)
    | none =>
      let inWord := fun d => !endsWord d
      some ([.word (c :: cs.takeWhile inWord)], cs.dropWhile inWord)

theorem length_le_of_nextToken {c : Char} {cs rest : List Char} {ts : List Token}
    (h : nextToken c cs = some (ts, rest)) : rest.length ≤ cs.length := by
  unfold nextToken at h
  split at h
  · obtain ⟨_, comment, same⟩ := Option.map_eq_some_iff.1 h
    cases same
    exact length_le_of_afterComment? comment
  split at h
  · obtain ⟨⟨_, _⟩, text, same⟩ := Option.map_eq_some_iff.1 h
    cases same
    exact length_le_of_textAfter text
  split at h
  · split at h
    · cases h
      exact (List.drop_sublist 1 cs).length_le
    · cases h
  split at h
  · cases h
    exact (List.dropWhile_sublist _).length_le
  split at h
  · cases h
    exact Nat.le_refl _
  · cases h
    exact (List.dropWhile_sublist _).length_le

/-- The tokens of a document. -/
def tokens? (cs : List Char) : Option (List Token) :=
  match cs with
  | [] => some []
  | c :: cs =>
    match _h : nextToken c cs with
    | none => none
    | some (token, rest) => (tokens? rest).map (token ++ ·)
  termination_by cs.length
  decreasing_by exact Nat.lt_succ_of_le (length_le_of_nextToken _h)

end CuratedList.Toml
