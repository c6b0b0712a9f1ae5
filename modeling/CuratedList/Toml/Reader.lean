import CuratedList.Toml.Token

/-! # Reading a TOML document

A document is a sequence of lines. A line starts a table or an element of an array of tables, or gives a
value to a key of the table started last.
-/

namespace CuratedList.Toml
set_option autoImplicit false

/-! ## Blanks -/

/-- A blank. -/
def Token.isBlank : Token → Bool
  | .blank _ => true
  | _ => false

/-- A blank or a line end. -/
def Token.isSpace : Token → Bool
  | .blank _ | .lineEnd => true
  | _ => false

/-- Without the blanks at the start. -/
def skipBlanks (ts : List Token) : List Token := ts.dropWhile Token.isBlank

/-- Without the blanks and line ends at the start. -/
def skipSpace (ts : List Token) : List Token := ts.dropWhile Token.isSpace

theorem length_skipBlanks_le (ts : List Token) : (skipBlanks ts).length ≤ ts.length :=
  (List.dropWhile_sublist _).length_le

theorem length_skipSpace_le (ts : List Token) : (skipSpace ts).length ≤ ts.length :=
  (List.dropWhile_sublist _).length_le

theorem length_lt_of_skipBlanks {t : Token} {ts rest : List Token} (h : skipBlanks ts = t :: rest) :
    rest.length < ts.length := by
  have shorter := length_skipBlanks_le ts
  rwa [h] at shorter

theorem length_lt_of_skipSpace {t : Token} {ts rest : List Token} (h : skipSpace ts = t :: rest) :
    rest.length < ts.length := by
  have shorter := length_skipSpace_le ts
  rwa [h] at shorter

/-! ## Keys -/

/-- A character of a key without quotes. -/
def isKeyChar (c : Char) : Bool := c.isAlphanum || c == '_' || c == '-'

/-- One part of a key. -/
def keyPart? : Token → Option String
  | .word cs => if cs.all isKeyChar then some (String.ofList cs) else none
  | .text false cs => some (String.ofList cs)
  | _ => none

/-- The parts of a dotted key, the last one apart, and what follows them and their blanks. -/
def key? (ts : List Token) : Option ((List String × String) × List Token) :=
  match _h : skipBlanks ts with
  | [] => none
  | t :: rest =>
    match keyPart? t, _k : skipBlanks rest with
    | none, _ => none
    | some part, .dot :: rest =>
      (key? rest).map fun ((path, last), rest) => ((part :: path, last), rest)
    | some part, rest => some (([], part), rest)
  termination_by ts.length
  decreasing_by exact Nat.lt_trans (length_lt_of_skipBlanks _k) (length_lt_of_skipBlanks _h)

theorem length_lt_of_key? {ts rest : List Token} {key : List String × String}
    (h : key? ts = some (key, rest)) : rest.length < ts.length := by
  fun_induction key? ts generalizing key rest with
  | case1 => cases h
  | case2 => cases h
  | case3 ts t more first part after next _ ih =>
    obtain ⟨⟨⟨_, _⟩, _⟩, read, same⟩ := Option.map_eq_some_iff.1 h
    cases same
    exact Nat.lt_trans (ih read) (Nat.lt_trans (length_lt_of_skipBlanks next) (length_lt_of_skipBlanks first))
  | case4 ts t more first part =>
    cases h
    exact Nat.lt_of_le_of_lt (length_skipBlanks_le more) (length_lt_of_skipBlanks first)

/-! ## Values -/

/-- What reads something at the start of the tokens, of which it takes at least one. -/
structure Reader (α : Type) where
  read? : List Token → Option (α × List Token)
  shorter : ∀ {ts rest : List Token} {a : α}, read? ts = some (a, rest) → rest.length < ts.length

namespace Reader

variable {α : Type} (reader : Reader α) {ts rest : List Token} {a : α}

theorem shorter_skipBlanks (h : reader.read? (skipBlanks ts) = some (a, rest)) :
    rest.length < ts.length :=
  Nat.lt_of_lt_of_le (reader.shorter h) (length_skipBlanks_le ts)

theorem shorter_skipSpace (h : reader.read? (skipSpace ts) = some (a, rest)) :
    rest.length < ts.length :=
  Nat.lt_of_lt_of_le (reader.shorter h) (length_skipSpace_le ts)

end Reader

/-- The words and periods that make up one value without quotes, after the characters already read, and
what follows them. A date and a time may have one space between them. -/
def scalarText (read : List Char) : List Token → List Char × List Token
  | .dot :: ts => scalarText (read ++ ['.']) ts
  | .word cs :: ts => scalarText (read ++ cs) ts
  | .blank [' '] :: .word (c :: cs) :: ts =>
    if isDigitOf 10 c && (afterDate? read).any List.isEmpty then scalarText (read ++ ' ' :: c :: cs) ts
    else (read, .blank [' '] :: .word (c :: cs) :: ts)
  | ts => (read, ts)

theorem length_scalarText_le (read : List Char) (ts : List Token) :
    (scalarText read ts).2.length ≤ ts.length := by
  fun_induction scalarText read ts with
  | case1 _ ts ih => exact Nat.le_succ_of_le ih
  | case2 _ _ ts ih => exact Nat.le_succ_of_le ih
  | case3 _ _ _ ts _ ih => exact Nat.le_trans ih (Nat.le_add_right _ 2)
  | case4 => exact Nat.le_refl _
  | case5 => exact Nat.le_refl _

/-- The value at the start of the tokens that holds no others, and what follows it. -/
def simpleValue? : List Token → Option (Value × List Token)
  | .text _ cs :: rest => some (.text (String.ofList cs), rest)
  | .word cs :: rest =>
    let (text, rest) := scalarText cs rest
    (scalar? text).map fun v => (v, rest)
  | _ => none

/-- Values that hold no others. -/
def simpleValue : Reader Value where
  read? := simpleValue?
  shorter {ts rest v} h := by
    unfold simpleValue? at h
    split at h
    · cases h
      exact Nat.lt_succ_self _
    · obtain ⟨_, -, same⟩ := Option.map_eq_some_iff.1 h
      cases same
      exact Nat.lt_succ_of_le (length_scalarText_le _ _)
    · cases h

/-- The elements of an array up to its closing bracket, and what follows it. -/
def elements? (value : Reader Value) (ts : List Token) : Option (List Value × List Token) :=
  match _h : skipSpace ts with
  | .closeArray :: rest => some ([], rest)
  | first =>
    match _v : value.read? first with
    | none => none
    | some (v, rest) =>
      match _s : skipSpace rest with
      | .closeArray :: rest => some ([v], rest)
      | .comma :: rest => (elements? value rest).map fun (vs, rest) => (v :: vs, rest)
      | _ => none
  termination_by ts.length
  decreasing_by
    subst _h
    exact Nat.lt_trans (length_lt_of_skipSpace _s) (value.shorter_skipSpace _v)

theorem length_lt_of_elements? {value : Reader Value} {ts rest : List Token} {vs : List Value}
    (h : elements? value ts = some (vs, rest)) : rest.length < ts.length := by
  fun_induction elements? value ts generalizing vs rest with
  | case1 ts _ closing =>
    cases h
    exact length_lt_of_skipSpace closing
  | case2 => cases h
  | case3 ts v more left closing _ read =>
    cases h
    exact Nat.lt_trans (length_lt_of_skipSpace closing) (value.shorter_skipSpace read)
  | case4 ts v more left comma _ read ih =>
    obtain ⟨⟨_, _⟩, others, same⟩ := Option.map_eq_some_iff.1 h
    cases same
    have taken := Nat.lt_trans (length_lt_of_skipSpace comma) (value.shorter_skipSpace read)
    exact Nat.lt_trans (ih others) taken
  | case5 => cases h

/-- A member, which is a key and its value, and the mark after it are taken. -/
theorem length_lt_of_member {value : Reader Value} {ts rest more left : List Token} {t : Token} {v : Value}
    {key : List String × String} (named : key? (skipSpace ts) = some (key, .equals :: rest))
    (read : value.read? (skipBlanks rest) = some (v, more)) (next : skipSpace more = t :: left) :
    left.length < ts.length := by
  have value := Nat.lt_trans (length_lt_of_skipSpace next) (value.shorter_skipBlanks read)
  have key := Nat.lt_of_succ_lt (length_lt_of_key? named)
  exact Nat.lt_of_lt_of_le (Nat.lt_trans value key) (length_skipSpace_le ts)

/-- The entries of a table between braces up to the closing one, after those already read, and what
follows it. -/
def members? (value : Reader Value) (entries : Entries) (ts : List Token) :
    Option (Entries × List Token) :=
  match _h : skipSpace ts with
  | .closeTable :: rest => some (entries, rest)
  | first =>
    match _k : key? first with
    | some ((path, key), .equals :: rest) =>
      match _v : value.read? (skipBlanks rest) with
      | none => none
      | some (v, rest) =>
        match entries.assign path key v with
        | none => none
        | some entries =>
          match _s : skipSpace rest with
          | .closeTable :: rest => some (entries, rest)
          | .comma :: rest => members? value entries rest
          | _ => none
    | _ => none
  termination_by ts.length
  decreasing_by
    subst _h
    exact length_lt_of_member _k _v _s

theorem length_lt_of_members? {value : Reader Value} {entries after : Entries} {ts rest : List Token}
    (h : members? value entries ts = some (after, rest)) : rest.length < ts.length := by
  fun_induction members? value entries ts generalizing after rest with
  | case1 _ ts _ closing =>
    cases h
    exact length_lt_of_skipSpace closing
  | case2 => cases h
  | case3 => cases h
  | case4 _ ts _ _ _ _ _ read _ _ _ closing _ named =>
    cases h
    exact length_lt_of_member named read closing
  | case5 _ ts _ _ _ _ _ read _ _ _ comma _ named ih =>
    exact Nat.lt_trans (ih h) (length_lt_of_member named read comma)
  | case6 => cases h
  | case7 => cases h

/-- Values of which arrays and tables between braces hold values that `inner` reads. -/
def Reader.around (inner : Reader Value) : Reader Value where
  read?
    | .openArray :: rest => (elements? inner rest).map fun (items, rest) => (.array false items, rest)
    | .openTable :: rest => (members? inner [] rest).map fun (entries, rest) => (.table .inline entries, rest)
    | ts => simpleValue.read? ts
  shorter {ts rest v} h := by
    split at h
    · obtain ⟨_, read, same⟩ := Option.map_eq_some_iff.1 h
      cases same
      exact Nat.lt_succ_of_lt (length_lt_of_elements? read)
    · obtain ⟨_, read, same⟩ := Option.map_eq_some_iff.1 h
      cases same
      exact Nat.lt_succ_of_lt (length_lt_of_members? read)
    · exact simpleValue.shorter h

/-- Values in which arrays and tables between braces lie in each other, so many at most. -/
def value : (depth : Nat) → Reader Value
  | 0 => simpleValue
  | depth + 1 => (value depth).around

/-- So many arrays and tables between braces may lie in each other. -/
def maxDepth : Nat := 80

/-! ## Lines -/

/-- What follows the end of a line, if nothing else stands before it. -/
def afterLine? (ts : List Token) : Option (List Token) :=
  match skipBlanks ts with
  | [] => some []
  | .lineEnd :: rest => some rest
  | _ => none

theorem length_le_of_afterLine? {ts rest : List Token} (h : afterLine? ts = some rest) :
    rest.length ≤ ts.length := by
  unfold afterLine? at h
  split at h
  next => cases h; exact Nat.zero_le _
  next ended => cases h; exact Nat.le_of_lt (length_lt_of_skipBlanks ended)
  next => cases h

/-- What the document holds after its next line, given the header that is in force; the header that is in
force then, and what follows the line. -/
def line? (header : List String) (entries : Entries) (ts : List Token) :
    Option (List String × Entries × List Token) :=
  match ts with
  | [] => some (header, entries, [])
  | .lineEnd :: rest => some (header, entries, rest)
  | .openArray :: .openArray :: rest =>
    match key? rest with
    | some ((path, key), .closeArray :: .closeArray :: rest) => do
      let entries ← entries.startElement path key
      return (path ++ [key], entries, ← afterLine? rest)
    | _ => none
  | .openArray :: rest =>
    match key? rest with
    | some ((path, key), .closeArray :: rest) => do
      let entries ← entries.startTable path key
      return (path ++ [key], entries, ← afterLine? rest)
    | _ => none
  | ts =>
    match key? ts with
    | some ((path, key), .equals :: rest) => do
      let (v, rest) ← (value maxDepth).read? (skipBlanks rest)
      let entries ← Entries.update false (fun _ inner => inner.assign path key v) header .header entries
      return (header, entries, ← afterLine? rest)
    | _ => none

/-- The key of a line is taken, and what follows the key up to the end of the line. -/
theorem length_lt_of_keyed {ts more left rest : List Token} {key : List String × String}
    (named : key? ts = some (key, more)) (taken : left.length ≤ more.length) (ended : afterLine? left = some rest) :
    rest.length < ts.length :=
  Nat.lt_of_le_of_lt (Nat.le_trans (length_le_of_afterLine? ended) taken) (length_lt_of_key? named)

/-- A line takes some of what is there, if there is anything. -/
theorem length_lt_of_line? {header next : List String} {entries after : Entries} {ts rest : List Token}
    (some : ts ≠ []) (h : line? header entries ts = .some (next, after, rest)) : rest.length < ts.length := by
  unfold line? at h
  split at h
  · exact absurd rfl some
  · cases h
    exact Nat.lt_succ_self _
  · split at h
    next named =>
      simp only [bind, Option.bind_eq_some_iff, pure] at h
      obtain ⟨_, -, _, ended, same⟩ := h
      cases same
      exact Nat.lt_add_right 2 (length_lt_of_keyed named (Nat.le_add_right _ 2) ended)
    next => cases h
  · split at h
    next named =>
      simp only [bind, Option.bind_eq_some_iff, pure] at h
      obtain ⟨_, -, _, ended, same⟩ := h
      cases same
      exact Nat.lt_succ_of_lt (length_lt_of_keyed named (Nat.le_succ _) ended)
    next => cases h
  · split at h
    next named =>
      simp only [bind, Option.bind_eq_some_iff, pure] at h
      obtain ⟨⟨_, left⟩, read, _, -, _, ended, same⟩ := h
      cases same
      have taken := (value maxDepth).shorter_skipBlanks read
      exact length_lt_of_keyed named (Nat.le_succ_of_le (Nat.le_of_lt taken)) ended
    next => cases h

/-- What the document holds after its last line. -/
def lines? (header : List String) (entries : Entries) (ts : List Token) : Option Entries :=
  match _h : skipBlanks ts with
  | [] => some entries
  | t :: line =>
    match _l : line? header entries (t :: line) with
    | none => none
    | some (header, entries, rest) => lines? header entries rest
  termination_by ts.length
  decreasing_by
    have before := length_lt_of_skipBlanks _h
    have taken := length_lt_of_line? (List.cons_ne_nil t line) _l
    simp only [List.length_cons] at taken
    omega

/-- The entries of a document. A byte order mark may stand before it. -/
def read? (text : String) : Option Entries :=
  let cs :=
    match text.toList with
    | '\uFEFF' :: cs => cs
    | cs => cs
  (tokens? cs).bind (lines? [] [])

end CuratedList.Toml
