import CuratedList.Proofs.Json.Machine
import CuratedList.Proofs.Toml.Document
import CuratedList.Report
import Mathlib.Data.List.TakeWhile

/-! # Written JSON and its tokens

Strings and natural numbers read back as what they were written for (`Reads.text`, `Reads.natural`), in front of
any text that cannot belong to them. `Reads` says that a text in front of others is read as some tokens, whatever
the rest is read as.
-/

namespace CuratedList.Json
set_option autoImplicit false

/-! ## Characters of a string -/

theorem hexadecimal_control :
    ∀ n < 32, (Text.hexadecimal 4 n).length = 4 ∧ (Text.hexadecimal 4 n).all (Toml.isDigitOf 16) = true ∧
      Toml.digitsValue 16 (Text.hexadecimal 4 n) = n := by
  decide +kernel

theorem escape?_hexadecimal {c : Char} (control : c.toNat < 0x20) (rest : List Char) :
    escape? ('u' :: Text.hexadecimal 4 c.toNat ++ rest) = some (c, rest) := by
  obtain ⟨length, digits, value⟩ := hexadecimal_control c.toNat control
  have unit : unit? (Text.hexadecimal 4 c.toNat ++ rest) = some (c.toNat, rest) := by
    rw [unit?, List.take_left' length, List.drop_left' length, value, length, digits]
    rfl
  have noHigh : ¬ 0xD800 ≤ c.toNat := by omega
  have noLow : ¬ 0xDC00 ≤ c.toNat := by omega
  rw [List.cons_append, escape?, numbered?, unit]
  simp [noHigh, noLow]

theorem text?_escape {c : Char} {form rest : List Char} (read : escape? (form ++ rest) = some (c, rest)) :
    text? ('\\' :: form ++ rest) = (text? rest).map fun (text, rest) => (c :: text, rest) := by
  rw [List.cons_append, text?, if_neg (by decide), if_pos rfl]
  split
  next found => cases read.symm.trans found; rfl
  next found => cases read.symm.trans found

/-- Each character is read as itself from the way it is written in a string. -/
theorem text?_jsonChar (c : Char) (rest : List Char) :
    text? (Report.jsonChar c ++ rest) = (text? rest).map fun (text, rest) => (c :: text, rest) := by
  unfold Report.jsonChar
  -- seven characters have an escape of one letter, the other control characters one of four digits
  split
  case h_1 | h_2 | h_3 | h_4 | h_5 | h_6 | h_7 => exact text?_escape rfl
  case h_8 noQuote noEscape _ _ _ _ _ =>
    split
    next control => exact text?_escape (escape?_hexadecimal control rest)
    next shown =>
      rw [List.singleton_append, text?, if_neg noQuote, if_neg noEscape, if_neg shown]

theorem text?_flatMap_jsonChar (cs rest : List Char) :
    text? (cs.flatMap Report.jsonChar ++ '"' :: rest) = some (cs, rest) := by
  induction cs with
  | nil =>
    rw [List.flatMap_nil, List.nil_append, text?]
    rfl
  | cons c cs ih => rw [List.flatMap_cons, List.append_assoc, text?_jsonChar, ih]; rfl

/-! ## Digits of a number -/

/-- Only zero is written with a zero in front. -/
theorem head?_toDigits {n : Nat} (positive : 0 < n) : (Nat.toDigits 10 n).head? ≠ some '0' := by
  induction n using Nat.strong_induction_on with
  | _ n ih =>
    rw [Nat.toDigits_eq_if (by decide)]
    split
    next small =>
      have digits : ∀ d < 10, 0 < d → [Nat.digitChar d].head? ≠ some '0' := by decide
      exact digits n small positive
    next large =>
      obtain ⟨d, ds, front⟩ := List.exists_cons_of_ne_nil (Nat.toDigits_ne_nil (n := n / 10) (b := 10))
      have first := ih (n / 10) (by omega) (by omega)
      rw [front] at first ⊢
      exact first

theorem isDigit_of_mem_toDigits {n : Nat} : ∀ c ∈ Nat.toDigits 10 n, c.isDigit = true := fun _ member =>
  Nat.isDigit_of_mem_toDigits (by decide) (by decide) member

theorem unsigned?_toDigits (n : Nat) : unsigned? (Nat.toDigits 10 n) = some (n : ℚ) := by
  have all : (Nat.toDigits 10 n).takeWhile Char.isDigit = Nat.toDigits 10 n :=
    List.takeWhile_eq_self_iff.2 isDigit_of_mem_toDigits
  have none : (Nat.toDigits 10 n).dropWhile Char.isDigit = [] :=
    List.dropWhile_eq_nil_iff.2 isDigit_of_mem_toDigits
  have digits : digits? (Nat.toDigits 10 n) = some (Nat.toDigits 10 n, []) := by
    rw [digits?, all, none]
    simp [Nat.toDigits_ne_nil]
  have noZero : ((Nat.toDigits 10 n).length != 1 && (Nat.toDigits 10 n).head? == some '0') = false := by
    cases n with
    | zero => decide
    | succ n => simp [head?_toDigits n.succ_pos]
  rw [unsigned?, digits]
  simp only [fraction?, exponent?, Option.bind_eq_bind, Option.bind_some, noZero]
  simp

theorem number?_toDigits (n : Nat) : number? (Nat.toDigits 10 n) = some (n : ℚ) := by
  unfold number?
  split
  next signed => exact absurd (isDigit_of_mem_toDigits (n := n) '-' (by simp [signed])) (by decide)
  next => exact unsigned?_toDigits n

theorem word?_of_number? {cs : List Char} {q : ℚ} (read : number? cs = some q) :
    word? cs = some (.number q) := by
  -- none of the three names is a number
  have apart {name : List Char} (other : number? name = none) : cs ≠ name := by
    rintro rfl
    cases other.symm.trans read
  rw [word?, if_neg (apart rfl), if_neg (apart rfl), if_neg (apart rfl), read]
  rfl

theorem inWord_of_isDigit {c : Char} (digit : c.isDigit = true) : inWord c = true := by
  have apart {d : Char} (other : d.isDigit = false) : c ≠ d := by
    rintro rfl
    cases other.symm.trans digit
  simp +decide [inWord, isSpace, mark?, List.lookup_eq_none_iff, apart]

/-! ## Tokens of a text in front of others -/

/-- In front of `rest` the text `written` is read as the tokens `ts`. -/
def Reads (written : List Char) (ts : List Token) (rest : List Char) : Prop :=
  tokens? (written ++ rest) = (tokens? rest).map (ts ++ ·)

namespace Reads

theorem nil (rest : List Char) : Reads [] [] rest := by
  rw [Reads, List.nil_append]
  cases tokens? rest <;> rfl

theorem append {a b rest : List Char} {ts us : List Token} (first : Reads a ts (b ++ rest))
    (second : Reads b us rest) : Reads (a ++ b) (ts ++ us) rest := by
  rw [Reads, List.append_assoc, first, second, Toml.map_append_append]

/-- White space is no token. -/
theorem space {cs : List Char} (blank : cs.all isSpace = true) (rest : List Char) : Reads cs [] rest := by
  induction cs with
  | nil => exact nil rest
  | cons c cs ih =>
    obtain ⟨here, later⟩ := Bool.and_eq_true_iff.1 blank
    have after := ih later
    rw [Reads] at after ⊢
    rw [List.cons_append, tokens?, if_pos here, after]

/-- A mark is one token with the white space after it. -/
theorem mark {c : Char} {cs : List Char} {t : Token} (marked : mark? c = some t)
    (blank : cs.all isSpace = true) (rest : List Char) : Reads (c :: cs) [t] rest := by
  have noSpace : isSpace c = false := by
    refine Bool.eq_false_iff.2 fun blank => ?_
    simp only [isSpace, List.contains_eq_mem, decide_eq_true_eq, List.mem_cons, List.not_mem_nil, or_false] at blank
    rcases blank with rfl | rfl | rfl | rfl <;> cases marked
  have noQuote : c ≠ '"' := by
    rintro rfl
    cases marked
  have after := space blank rest
  rw [Reads] at after ⊢
  rw [List.cons_append, tokens?]
  simp [noSpace, noQuote, marked, after]

theorem text (s : String) (rest : List Char) : Reads (Report.jsonString s) [.atom (.text s)] rest := by
  have read := text?_flatMap_jsonChar s.toList rest
  have quote : isSpace '"' = false := by decide
  have parts : Report.jsonString s ++ rest = '"' :: (s.toList.flatMap Report.jsonChar ++ '"' :: rest) := by
    simp [Report.jsonString]
  rw [Reads, parts, tokens?, if_neg (by simp [quote]), if_pos rfl]
  split
  next found =>
    cases read.symm.trans found
    rw [String.ofList_toList]
    rfl
  next found => cases read.symm.trans found

theorem word {cs rest : List Char} {a : Atom} (nonempty : cs ≠ []) (inside : ∀ c ∈ cs, inWord c = true)
    (apart : ∀ c ∈ rest.head?, inWord c = false) (known : word? cs = some a) : Reads cs [.atom a] rest := by
  obtain ⟨c, cs, rfl⟩ := List.exists_cons_of_ne_nil nonempty
  obtain ⟨here, later⟩ := List.forall_mem_cons.1 inside
  obtain ⟨taken, left⟩ := Toml.takeWhile_dropWhile_append later apart
  simp only [inWord, Bool.and_eq_true, Bool.not_eq_true', Option.isNone_iff_eq_none, bne_iff_ne] at here
  rw [Reads, List.cons_append, tokens?]
  simp [here, taken, left, known]

theorem natural (n : Nat) {rest : List Char} (apart : ∀ c ∈ rest.head?, inWord c = false) :
    Reads (toString n).toList [.atom (.number n)] rest := by
  rw [Nat.toString_eq_ofList_toDigits, String.toList_ofList]
  exact word Nat.toDigits_ne_nil (fun c member => inWord_of_isDigit (isDigit_of_mem_toDigits c member)) apart
    (word?_of_number? (number?_toDigits n))

end Reads

/-- A text whose tokens are those of a value has this value. -/
theorem read?_of_reads {text : String} {v : Value} (read : Reads text.toList v.tokens []) :
    read? text = some v := by
  have tokens : tokens? text.toList = some v.tokens := by
    rw [Reads, List.append_nil, tokens?] at read
    simpa using read
  rw [read?, tokens]
  exact (value?_eq_some_iff _ _).2 rfl

end CuratedList.Json
