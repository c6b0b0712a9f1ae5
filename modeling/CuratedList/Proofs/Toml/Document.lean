import CuratedList.Proofs.Toml.Quotes
import CuratedList.Toml.Reader

/-! # Documents of assignments

A document whose lines give contents to new keys, in the form in which the writer writes them, reads back as
these keys and values in their order (`read?_writtenLines`). The proof goes through the tokens: `Reads` says
that a text in front of others is read as some tokens, whatever the rest is read as.
-/

namespace CuratedList.Toml
set_option autoImplicit false

theorem takeWhile_dropWhile_append {p : Char → Bool} {cs rest : List Char} (all : ∀ c ∈ cs, p c = true)
    (apart : ∀ c ∈ rest.head?, p c = false) :
    (cs ++ rest).takeWhile p = cs ∧ (cs ++ rest).dropWhile p = rest := by
  rw [List.takeWhile_append_of_pos all, List.dropWhile_append_of_pos all]
  cases rest with
  | nil => simp
  | cons c rest => simp [apart c rfl]

theorem map_append_append {α : Type} (as bs : List α) (rest : Option (List α)) :
    (rest.map (bs ++ ·)).map (as ++ ·) = rest.map (as ++ bs ++ ·) := by
  rw [Option.map_map]
  exact congrArg (Option.map · rest) (funext fun more => (List.append_assoc as bs more).symm)

theorem nextToken_word {c : Char} (inWord : endsWord c = false) (cs : List Char) :
    nextToken c cs =
      some ([.word (c :: cs.takeWhile fun d => !endsWord d)], cs.dropWhile fun d => !endsWord d) := by
  simp only [endsWord, List.contains_eq_mem, List.mem_cons, List.not_mem_nil, or_false,
    decide_eq_false_iff_not, not_or] at inWord
  have unmarked : punctuation? c = none := by
    rw [punctuation?, List.lookup_eq_none_iff]
    simp [inWord]
  simp [nextToken, isBlank, inWord, unmarked]

/-! ## Tokens of a text in front of others -/

/-- In front of `rest` the text `written` is read as the tokens `ts`. -/
def Reads (written : List Char) (ts : List Token) (rest : List Char) : Prop :=
  tokens? (written ++ rest) = (tokens? rest).map (ts ++ ·)

namespace Reads

theorem nil (rest : List Char) : Reads [] [] rest := by
  rw [Reads, List.nil_append]
  cases tokens? rest <;> rfl

theorem append {a b rest : List Char} {ts us : List Token} (first : Reads a ts (b ++ rest))
    (second : Reads b us rest) : Reads (a ++ b) (ts ++ us) rest := by
  rw [Reads, List.append_assoc, first, second, map_append_append]

theorem of_nextToken {c : Char} {cs rest : List Char} {ts : List Token}
    (next : nextToken c (cs ++ rest) = some (ts, rest)) : Reads (c :: cs) ts rest := by
  rw [Reads, List.cons_append, tokens?, next]

theorem mark {c : Char} {t : Token} (rest : List Char)
    (next : nextToken c rest = some ([t], rest)) : Reads [c] [t] rest :=
  of_nextToken next

/-- Blanks up to something else are one token. -/
theorem blank {c : Char} {cs rest : List Char} (blanks : ∀ d ∈ c :: cs, isBlank d = true)
    (apart : ∀ d ∈ rest.head?, isBlank d = false) : Reads (c :: cs) [.blank (c :: cs)] rest := by
  obtain ⟨here, later⟩ := List.forall_mem_cons.1 blanks
  obtain ⟨taken, left⟩ := takeWhile_dropWhile_append later apart
  refine of_nextToken ?_
  rcases (by simpa [isBlank] using here : c = ' ' ∨ c = '\t') with rfl | rfl <;>
    simp [nextToken, here, taken, left]

/-- A word up to something that ends it is one token. -/
theorem word {cs rest : List Char} (some : cs ≠ []) (inWord : ∀ c ∈ cs, endsWord c = false)
    (apart : ∀ c ∈ rest.head?, endsWord c = true) : Reads cs [.word cs] rest := by
  obtain ⟨c, cs, rfl⟩ := List.exists_cons_of_ne_nil some
  obtain ⟨here, later⟩ := List.forall_mem_cons.1 inWord
  obtain ⟨taken, left⟩ : (cs ++ rest).takeWhile (fun d => !endsWord d) = cs ∧
      (cs ++ rest).dropWhile (fun d => !endsWord d) = rest :=
    takeWhile_dropWhile_append (fun d member => by simp [later d member])
      (fun d member => by simp [apart d member])
  refine of_nextToken ?_
  rw [nextToken_word here, taken, left]

theorem text (cs : List Char) {rest : List Char} (noDouble : rest.head? ≠ some '"')
    (noSingle : rest.head? ≠ some '\'') : Reads (writtenText cs) [textToken cs] rest := by
  obtain ⟨body, written, read⟩ := textAfter_writtenText cs
  have after := read rest noDouble noSingle
  have quoted : (TextStyle.ofText cs).quote ≠ '#' ∧
      ((TextStyle.ofText cs).quote = '"' ∨ (TextStyle.ofText cs).quote = '\'') := by
    cases TextStyle.ofText cs <;> decide
  rw [written]
  refine of_nextToken ?_
  rw [nextToken, if_neg quoted.1, if_pos (by simpa using quoted.2), after]
  rfl

end Reads

/-! ## Contents -/

/-- What a key can be given here. -/
inductive Content where
  | text (t : String)
  | texts (ts : List String)
  | boolean (b : Bool)

namespace Content

/-- A content as it is written. -/
def written : Content → List Char
  | text t => writtenText t.toList
  | texts ts => writtenTexts (ts.map String.toList)
  | boolean b => (toString b).toList

/-- The value that a content stands for. -/
def value : Content → Value
  | text t => .text t
  | texts ts => .array false (ts.map .text)
  | boolean b => .boolean b

/-- The tokens of the lines of an array, after its first line. -/
def elementTokens (ts : List String) : List Token :=
  ts.flatMap fun t => [.blank "    ".toList, textToken t.toList, .comma, .lineEnd]

/-- The tokens of a content. -/
def tokens : Content → List Token
  | text t => [textToken t.toList]
  | texts [] => [.openArray, .closeArray]
  | texts [t] => [.openArray, textToken t.toList, .closeArray]
  | texts ts => .openArray :: .lineEnd :: elementTokens ts ++ [.closeArray]
  | boolean b => [.word (toString b).toList]

end Content

theorem head?_writtenText (t : List Char) (rest : List Char) :
    ∀ d ∈ (writtenText t ++ rest).head?, isBlank d = false := by
  obtain ⟨body, written, -⟩ := textAfter_writtenText t
  rw [written]
  rintro _ ⟨⟩
  cases TextStyle.ofText t <;> decide

namespace Content

theorem head?_written (c : Content) (rest : List Char) :
    ∀ d ∈ (c.written ++ rest).head?, isBlank d = false := by
  cases c with
  | text t => exact head?_writtenText t.toList rest
  | texts ts =>
    rcases ts with _ | ⟨_, _ | ⟨_, _⟩⟩ <;> rintro _ ⟨⟩ <;> decide
  | boolean b => cases b <;> rintro _ ⟨⟩ <;> decide

theorem skipBlanks_tokens (c : Content) (rest : List Token) :
    skipBlanks (.blank [' '] :: (c.tokens ++ rest)) = c.tokens ++ rest := by
  cases c with
  | text t => rfl
  | texts ts => rcases ts with _ | ⟨_, _ | ⟨_, _⟩⟩ <;> rfl
  | boolean b => rfl

end Content

/-- An element on a line of its own, in front of the lines of others. -/
theorem reads_element (t : List Char) (rest : List Char) :
    Reads ("    ".toList ++ writtenText t ++ [',', '\n'])
      [.blank "    ".toList, textToken t, .comma, .lineEnd] rest := by
  have spaces : "    ".toList = [' ', ' ', ' ', ' '] := by decide
  have indent : Reads "    ".toList [.blank "    ".toList] (writtenText t ++ (',' :: '\n' :: rest)) := by
    rw [spaces]
    exact .blank (by simp [isBlank]) (head?_writtenText t _)
  have element : Reads (writtenText t) [textToken t] (',' :: '\n' :: rest) :=
    .text t (by simp) (by simp)
  have comma : Reads [','] [.comma] ('\n' :: rest) := .mark _ rfl
  have lineEnd : Reads ['\n'] [.lineEnd] rest := .mark _ rfl
  exact (indent.append element).append (comma.append lineEnd)

theorem reads_elements (ts : List String) (rest : List Char) :
    Reads (ts.flatMap fun t => "    ".toList ++ writtenText t.toList ++ [',', '\n'])
      (Content.elementTokens ts) rest := by
  induction ts with
  | nil => exact .nil rest
  | cons t ts ih => exact (reads_element t.toList _).append ih

theorem reads_texts (ts : List String) (rest : List Char) :
    Reads (Content.texts ts).written (Content.texts ts).tokens rest := by
  have opening (cs : List Char) : Reads ['['] [.openArray] cs := .mark cs rfl
  have closing : Reads [']'] [.closeArray] rest := .mark rest rfl
  rcases ts with _ | ⟨t, _ | ⟨u, ts⟩⟩
  · exact (opening _).append closing
  · have element : Reads (writtenText t.toList) [textToken t.toList] (']' :: rest) :=
      .text t.toList (by simp) (by simp)
    exact (opening _).append (element.append closing)
  · have lineEnd (cs : List Char) : Reads ['\n'] [.lineEnd] cs := .mark cs rfl
    have lines := ((opening _).append (lineEnd _)).append ((reads_elements (t :: u :: ts) _).append closing)
    simpa [Content.written, Content.tokens, writtenTexts, List.flatMap_map] using lines

theorem reads_content (c : Content) (rest : List Char) :
    Reads c.written c.tokens ('\n' :: rest) := by
  cases c with
  | text t => exact .text t.toList (by simp) (by simp)
  | texts ts => exact reads_texts ts _
  | boolean b =>
    refine .word ?_ ?_ ?_
    · cases b <;> decide
    · cases b <;> simp only [← Bool.not_eq_true, ← List.any_eq_false] <;> decide
    · rintro _ ⟨⟩
      decide

/-! ## Values from tokens -/

theorem value_textToken (depth : Nat) (t : List Char) (rest : List Token) :
    (value depth).read? (textToken t :: rest) = some (.text (String.ofList t), rest) := by
  cases depth <;> rfl

theorem elements?_close {inner : Reader Value} {ts rest : List Token}
    (first : skipSpace ts = .closeArray :: rest) : elements? inner ts = some ([], rest) := by
  rw [elements?]
  split
  next found =>
    rw [first] at found
    cases found
    rfl
  next other => exact absurd first (other rest)

section

variable {depth : Nat} {ts after rest : List Token} {t : List Char}
variable (first : skipSpace ts = textToken t :: after)

include first

/-- After a text the array ends or goes on. -/
theorem elements?_textToken :
    elements? (value depth) ts =
      match skipSpace after with
      | .closeArray :: rest => some ([.text (String.ofList t)], rest)
      | .comma :: rest =>
        (elements? (value depth) rest).map fun found => (.text (String.ofList t) :: found.1, found.2)
      | _ => none := by
  have element : (value depth).read? (skipSpace ts) = some (.text (String.ofList t), after) := by
    rw [first, value_textToken]
  rw [elements?]
  split
  next found => cases first.symm.trans found
  next =>
    split
    next none => cases element.symm.trans none
    next v more read =>
      cases element.symm.trans read
      split
      next closing => simp only [closing]
      next comma => simp only [comma]
      next noEnd noMore =>
        split
        next closing => exact absurd closing (noEnd _)
        next comma => exact absurd comma (noMore _)
        next => rfl

theorem elements?_last (next : skipSpace after = .closeArray :: rest) :
    elements? (value depth) ts = some ([.text (String.ofList t)], rest) := by
  rw [elements?_textToken first, next]

theorem elements?_more (next : skipSpace after = .comma :: rest) :
    elements? (value depth) ts =
      (elements? (value depth) rest).map fun found => (.text (String.ofList t) :: found.1, found.2) := by
  rw [elements?_textToken first, next]

end

theorem elements?_elementTokens (depth : Nat) (ts : List String) (rest : List Token) :
    elements? (value depth) (.lineEnd :: (Content.elementTokens ts ++ .closeArray :: rest)) =
      some (ts.map .text, rest) := by
  induction ts with
  | nil => exact elements?_close rfl
  | cons t ts ih =>
    have next : elements? (value depth)
        (.lineEnd :: (Content.elementTokens (t :: ts) ++ .closeArray :: rest)) =
        (elements? (value depth) (.lineEnd :: (Content.elementTokens ts ++ .closeArray :: rest))).map
          fun found => (.text (String.ofList t.toList) :: found.1, found.2) :=
      elements?_more rfl rfl
    rw [next, ih, String.ofList_toList]
    rfl

theorem value_content (depth : Nat) (c : Content) (rest : List Token) :
    (value (depth + 1)).read? (c.tokens ++ .lineEnd :: rest) = some (c.value, .lineEnd :: rest) := by
  have array (ts : List Token) : (value (depth + 1)).read? (.openArray :: ts) =
      (elements? (value depth) ts).map fun found => (.array false found.1, found.2) := rfl
  cases c with
  | text t =>
    refine (value_textToken (depth + 1) t.toList _).trans ?_
    rw [String.ofList_toList]
    rfl
  | boolean b => cases b <;> rfl
  | texts ts =>
    rcases ts with _ | ⟨t, _ | ⟨u, ts⟩⟩
    · simp only [Content.tokens, Content.value, List.cons_append, List.nil_append, array]
      rw [elements?_close rfl]
      rfl
    · simp only [Content.tokens, Content.value, List.cons_append, List.nil_append, array]
      rw [elements?_last rfl rfl, String.ofList_toList]
      rfl
    · simp only [Content.tokens, Content.value, List.cons_append, List.append_assoc, List.nil_append, array]
      rw [elements?_elementTokens]
      rfl

/-! ## Lines -/

/-- A key that needs no quotes. -/
def IsBare (key : String) : Prop := key ≠ "" ∧ ∀ c ∈ key.toList, isKeyChar c = true

theorem endsWord_of_isKeyChar {c : Char} (inKey : isKeyChar c = true) : endsWord c = false := by
  refine Bool.eq_false_iff.2 fun ends => ?_
  simp only [endsWord, List.contains_eq_mem, decide_eq_true_eq, List.mem_cons, List.not_mem_nil,
    or_false] at ends
  rcases ends with rfl | rfl | rfl | rfl | rfl | rfl | rfl | rfl | rfl | rfl | rfl | rfl | rfl | rfl <;>
    exact absurd inKey (by decide)

/-- The tokens of a line that gives a content to a key. -/
def lineTokens (key : String) (c : Content) : List Token :=
  [.word key.toList, .blank [' '], .equals, .blank [' ']] ++ c.tokens ++ [.lineEnd]

theorem reads_writtenLine {key : String} (bare : IsBare key) (c : Content) (rest : List Char) :
    Reads (writtenLine key c.written) (lineTokens key c) rest := by
  have sides : " = ".toList = [' '] ++ ['='] ++ [' '] := by decide
  have name (cs : List Char) : Reads key.toList [.word key.toList] (' ' :: cs) := by
    refine .word (by simpa using bare.1) (fun d member => ?_) (by rintro _ ⟨⟩; decide)
    exact endsWord_of_isKeyChar (bare.2 d member)
  have before (cs : List Char) : Reads [' '] [.blank [' ']] ('=' :: cs) :=
    .blank (by simp [isBlank]) (by rintro _ ⟨⟩; decide)
  have equals (cs : List Char) : Reads ['='] [.equals] cs := .mark cs rfl
  have after : Reads [' '] [.blank [' ']] (c.written ++ '\n' :: rest) :=
    .blank (by simp [isBlank]) (c.head?_written _)
  have lineEnd : Reads ['\n'] [.lineEnd] rest := .mark rest rfl
  have value := (after.append (reads_content c rest)).append lineEnd
  have line := (name _).append ((before _).append ((equals _).append value))
  simpa [writtenLine, sides, lineTokens] using line

theorem key?_word {key : String} (bare : IsBare key) (rest : List Token) :
    key? (.word key.toList :: .blank [' '] :: .equals :: rest) = some (([], key), .equals :: rest) := by
  have part : keyPart? (.word key.toList) = some key := by
    rw [keyPart?, if_pos (List.all_eq_true.2 bare.2), String.ofList_toList]
  have word (ts : List Token) : skipBlanks (.word key.toList :: ts) = .word key.toList :: ts := rfl
  have next : skipBlanks (.blank [' '] :: .equals :: rest) = .equals :: rest := rfl
  rw [key?]
  split
  next none => cases (word _).symm.trans none
  next t more first =>
    cases (word _).symm.trans first
    split
    next noPart => cases part.symm.trans noPart
    next dot => cases next.symm.trans dot
    next last _ =>
      cases part.symm.trans last
      rw [next]

theorem line?_lineTokens {key : String} (bare : IsBare key) (c : Content) {entries : Entries}
    (new : entries.get? key = none) (rest : List Token) :
    line? [] entries (lineTokens key c ++ rest) = some ([], entries ++ [(key, c.value)], rest) := by
  have value : (value maxDepth).read? (skipBlanks (.blank [' '] :: (c.tokens ++ .lineEnd :: rest))) =
      some (c.value, .lineEnd :: rest) := by
    obtain ⟨depth, deep⟩ : ∃ depth, maxDepth = depth + 1 := ⟨_, rfl⟩
    rw [c.skipBlanks_tokens, deep, value_content]
  have assigned : entries.assign [] key c.value = some (entries ++ [(key, c.value)]) := by
    simp [Entries.assign, Entries.update, Entries.set, new]
  have ended : afterLine? (.lineEnd :: rest) = some rest := rfl
  simp only [lineTokens, List.append_assoc, List.cons_append, List.nil_append, line?, key?_word bare, value,
    Entries.update, bind, Option.bind, assigned, ended]
  rfl

theorem lines?_lineTokens {key : String} (bare : IsBare key) (c : Content) {entries : Entries}
    (new : entries.get? key = none) (rest : List Token) :
    lines? [] entries (lineTokens key c ++ rest) = lines? [] (entries ++ [(key, c.value)]) rest := by
  have here : skipBlanks (lineTokens key c ++ rest) = lineTokens key c ++ rest := rfl
  have line := line?_lineTokens bare c new rest
  rw [lines?]
  split
  next none => cases here.symm.trans none
  next t more first =>
    rw [here] at first
    rw [first] at line
    split
    next none => cases line.symm.trans none
    next after =>
      cases line.symm.trans after
      rfl

/-! ## Documents -/

/-- The lines that give contents to keys. -/
def writtenLines (ls : List (String × Content)) : List Char :=
  ls.flatMap fun l => writtenLine l.1 l.2.written

theorem reads_writtenLines {ls : List (String × Content)} (bare : ∀ l ∈ ls, IsBare l.1) :
    Reads (writtenLines ls) (ls.flatMap fun l => lineTokens l.1 l.2) [] := by
  induction ls with
  | nil => exact .nil []
  | cons l ls ih =>
    obtain ⟨here, later⟩ := List.forall_mem_cons.1 bare
    exact (reads_writtenLine here l.2 _).append (ih later)

theorem lines?_flatMap_lineTokens {ls : List (String × Content)} {entries : Entries}
    (bare : ∀ l ∈ ls, IsBare l.1) (different : (ls.map Prod.fst).Nodup)
    (new : ∀ l ∈ ls, entries.get? l.1 = none) :
    lines? [] entries (ls.flatMap fun l => lineTokens l.1 l.2) =
      some (entries ++ ls.map fun l => (l.1, l.2.value)) := by
  induction ls generalizing entries with
  | nil => simp [lines?, skipBlanks]
  | cons l ls ih =>
    obtain ⟨bareHere, bareLater⟩ := List.forall_mem_cons.1 bare
    obtain ⟨newHere, newLater⟩ := List.forall_mem_cons.1 new
    obtain ⟨apart, differentLater⟩ := List.nodup_cons.1 different
    -- the line adds its own key only, and the keys of the lines after it are other ones
    have stillNew : ∀ k ∈ ls, Entries.get? (entries ++ [(l.1, l.2.value)]) k.1 = none := by
      intro k member
      have other : k.1 ≠ l.1 := fun same => apart (List.mem_map.2 ⟨k, member, same⟩)
      have absent : entries.lookup k.1 = none := newLater k member
      simp [Entries.get?, List.lookup_append, absent, List.lookup_cons, beq_false_of_ne other]
    rw [List.flatMap_cons, lines?_lineTokens bareHere l.2 newHere, ih bareLater differentLater stillNew,
      List.append_assoc]
    rfl

theorem read?_ofList {cs : List Char} (noMark : cs.head? ≠ some '\uFEFF') :
    read? (String.ofList cs) = (tokens? cs).bind (lines? [] []) := by
  rw [read?, String.toList_ofList]
  split
  next found => exact absurd rfl noMark
  next => rfl

/-- Lines that give contents to different keys are read as these keys with the values of the contents, in the
order of the lines. -/
theorem read?_writtenLines {ls : List (String × Content)} (bare : ∀ l ∈ ls, IsBare l.1)
    (different : (ls.map Prod.fst).Nodup) :
    read? (String.ofList (writtenLines ls)) = some (ls.map fun l => (l.1, l.2.value)) := by
  have noMark : (writtenLines ls).head? ≠ some '\uFEFF' := by
    cases ls with
    | nil => simp [writtenLines]
    | cons l ls =>
      obtain ⟨some, inKey⟩ := bare l List.mem_cons_self
      obtain ⟨c, cs, key⟩ := List.exists_cons_of_ne_nil (by simpa using some : l.1.toList ≠ [])
      rw [writtenLines, List.flatMap_cons, writtenLine, key]
      rintro ⟨⟩
      exact absurd (inKey '\uFEFF' (by simp [key])) (by decide)
  have tokens := reads_writtenLines bare
  rw [Reads, List.append_nil, tokens?, Option.map_some, List.append_nil] at tokens
  rw [read?_ofList noMark, tokens, Option.bind_some]
  exact lines?_flatMap_lineTokens bare different fun _ _ => rfl

end CuratedList.Toml
