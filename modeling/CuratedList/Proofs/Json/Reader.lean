import CuratedList.Toml.Scalar
import Mathlib.Data.Rat.Lemmas

/-! # Reading JSON

What a JSON text means, for any reader of the reports. The text is cut into tokens, and a machine with a stack
of open arrays and objects reads them one by one.

Numbers are rational, so that two ways to write one number have the same value. The members of an object stand
in the order of the text, and none is lost if a key comes twice.
-/

namespace CuratedList.Json
set_option autoImplicit false

/-- A value without parts. -/
inductive Atom where
  | null
  | boolean (b : Bool)
  | number (q : ℚ)
  | text (s : String)
  deriving DecidableEq

inductive Value where
  | atom (a : Atom)
  | array (items : List Value)
  | object (members : List (String × Value))

inductive Token where
  | openArray
  | closeArray
  | openObject
  | closeObject
  | comma
  | colon
  | atom (a : Atom)
  deriving DecidableEq

/-! ## Texts -/

/-- The UTF-16 unit in four hexadecimal digits, and what follows it. -/
def unit? (cs : List Char) : Option (Nat × List Char) :=
  let digits := cs.take 4
  if digits.length == 4 && digits.all (Toml.isDigitOf 16) then
    some (Toml.digitsValue 16 digits, cs.drop 4)
  else none

/-- The second half of a pair of units, which has an escape of its own, and what follows it. -/
def lowHalf? : List Char → Option (Nat × List Char)
  | '\\' :: 'u' :: cs => (unit? cs).filter fun (n, _) => 0xDC00 ≤ n && n < 0xE000
  | _ => none

/-- The character of a numbered escape, given what follows its letter, and what follows the escape. The first
half of a pair of units needs the second one, which does not stand alone. -/
def numbered? (cs : List Char) : Option (Char × List Char) :=
  match unit? cs with
  | none => none
  | some (n, rest) =>
    if 0xD800 ≤ n && n < 0xDC00 then
      (lowHalf? rest).map fun (low, rest) =>
        (Char.ofNat (0x10000 + (n - 0xD800) * 0x400 + (low - 0xDC00)), rest)
    else if 0xDC00 ≤ n && n < 0xE000 then none
    else some (Char.ofNat n, rest)

example : numbered? "d83d\\ude00\"".toList = some ('😀', ['"']) := by decide +kernel

def escapeLetter? (c : Char) : Option Char :=
  [('"', '"'), ('\\', '\\'), ('/', '/'), ('b', '\x08'), ('f', '\x0c'), ('n', '\n'), ('r', '\r'),
    ('t', '\t')].lookup c

/-- The character of an escape, given what follows the backslash, and what follows the escape. -/
def escape? : List Char → Option (Char × List Char)
  | [] => none
  | 'u' :: cs => numbered? cs
  | c :: cs => (escapeLetter? c).map fun d => (d, cs)

theorem length_le_of_unit? {cs rest : List Char} {n : Nat} (h : unit? cs = some (n, rest)) :
    rest.length ≤ cs.length := by
  simp only [unit?] at h
  split at h
  · cases h
    simp
  · cases h

theorem length_le_of_lowHalf? {cs rest : List Char} {n : Nat} (h : lowHalf? cs = some (n, rest)) :
    rest.length ≤ cs.length := by
  unfold lowHalf? at h
  split at h
  · have shorter := length_le_of_unit? (Option.filter_eq_some_iff.1 h).1
    simp only [List.length_cons]
    omega
  · cases h

theorem length_le_of_numbered? {cs rest : List Char} {c : Char} (h : numbered? cs = some (c, rest)) :
    rest.length ≤ cs.length := by
  unfold numbered? at h
  split at h
  · cases h
  next first =>
    have shorter := length_le_of_unit? first
    split at h
    · obtain ⟨⟨low, left⟩, second, same⟩ := Option.map_eq_some_iff.1 h
      rw [← (Prod.mk.inj same).2]
      exact (length_le_of_lowHalf? second).trans shorter
    · split at h
      · cases h
      · rwa [← (Prod.mk.inj (Option.some.inj h)).2]

theorem length_lt_of_escape? {cs rest : List Char} {c : Char} (h : escape? cs = some (c, rest)) :
    rest.length < cs.length := by
  unfold escape? at h
  split at h
  · cases h
  · exact Nat.lt_succ_of_le (length_le_of_numbered? h)
  · obtain ⟨d, -, same⟩ := Option.map_eq_some_iff.1 h
    cases same
    exact Nat.lt_succ_self _

/-- The text up to the closing quote, and what follows it. -/
def text? (cs : List Char) : Option (List Char × List Char) :=
  match cs with
  | [] => none
  | c :: cs =>
    if c = '"' then some ([], cs)
    else if c = '\\' then
      match _h : escape? cs with
      | some (d, rest) => (text? rest).map fun (text, rest) => (d :: text, rest)
      | none => none
    else if c.toNat < 0x20 then none
    else (text? cs).map fun (text, rest) => (c :: text, rest)
  termination_by cs.length
  decreasing_by
    · have := length_lt_of_escape? _h
      simp only [List.length_cons]
      omega
    · simp

theorem length_lt_of_text? {cs text rest : List Char} (h : text? cs = some (text, rest)) :
    rest.length < cs.length := by
  fun_induction text? cs generalizing text with
  | case1 => cases h
  | case2 => cases h; simp
  | case3 cs d after escaped _ ih =>
    obtain ⟨⟨more, left⟩, read, same⟩ := Option.map_eq_some_iff.1 h
    cases same
    have shorter := length_lt_of_escape? escaped
    have := ih read
    simp only [List.length_cons]
    omega
  | case4 => cases h
  | case5 => cases h
  | case6 c cs _ _ _ ih =>
    obtain ⟨⟨more, left⟩, read, same⟩ := Option.map_eq_some_iff.1 h
    cases same
    exact Nat.lt_succ_of_lt (ih read)

/-! ## Numbers -/

/-- The digits in front of a text, of which there is one at least, and what follows them. -/
def digits? (cs : List Char) : Option (List Char × List Char) :=
  let digits := cs.takeWhile Char.isDigit
  if digits.isEmpty then none else some (digits, cs.dropWhile Char.isDigit)

/-- The digits after a point, and what follows them. -/
def fraction? : List Char → Option (List Char × List Char)
  | '.' :: cs => digits? cs
  | cs => some ([], cs)

/-- The exponent after its mark, and what follows it. -/
def exponent? : List Char → Option (Int × List Char)
  | 'e' :: cs | 'E' :: cs =>
    let (negative, cs) := Toml.splitSign cs
    (digits? cs).map fun (digits, rest) =>
      let size : Int := Nat.ofDigitChars 10 digits 0
      (if negative then -size else size, rest)
  | cs => some (0, cs)

/-- A number without its sign. -/
def unsigned? (cs : List Char) : Option ℚ := do
  let (whole, cs) ← digits? cs
  let (fraction, cs) ← fraction? cs
  let (exponent, cs) ← exponent? cs
  -- a zero in front stands alone
  if !cs.isEmpty || (whole.length != 1 && whole.head? == some '0') then none
  else return (Nat.ofDigitChars 10 (whole ++ fraction) 0 : ℚ) * 10 ^ (exponent - fraction.length)

def number? : List Char → Option ℚ
  | '-' :: cs => (unsigned? cs).map (-·)
  | cs => unsigned? cs

example : number? "-1.5e1".toList = some (-15) ∧ number? "01".toList = none := by decide +kernel

/-! ## Tokens -/

def isSpace (c : Char) : Bool := [' ', '\t', '\n', '\r'].contains c

def mark? (c : Char) : Option Token :=
  [('[', Token.openArray), (']', .closeArray), (Char.ofNat 0x7B, .openObject),
    (Char.ofNat 0x7D, .closeObject), (',', .comma), (':', .colon)].lookup c

/-- A character that belongs to a name or a number. -/
def inWord (c : Char) : Bool := !isSpace c && (mark? c).isNone && c != '"'

def word? (cs : List Char) : Option Atom :=
  if cs = "null".toList then some .null
  else if cs = "true".toList then some (.boolean true)
  else if cs = "false".toList then some (.boolean false)
  else (number? cs).map .number

def tokens? (cs : List Char) : Option (List Token) :=
  match cs with
  | [] => some []
  | c :: cs =>
    if isSpace c then tokens? cs
    else if c = '"' then
      match _h : text? cs with
      | some (text, rest) => (tokens? rest).map (.atom (.text (String.ofList text)) :: ·)
      | none => none
    else
      match mark? c with
      | some mark => (tokens? cs).map (mark :: ·)
      | none =>
        match word? (c :: cs.takeWhile inWord) with
        | some a => (tokens? (cs.dropWhile inWord)).map (.atom a :: ·)
        | none => none
  termination_by cs.length
  decreasing_by
    · simp
    · have := length_lt_of_text? _h
      simp only [List.length_cons]
      omega
    · simp
    · have := (List.dropWhile_sublist (p := inWord) (l := cs)).length_le
      simp only [List.length_cons]
      omega

/-! ## Values -/

/-- What is open where a value is read: an array with the items before it, or an object with the members before
it and its own key. The last one comes first. -/
inductive Open where
  | array (items : List Value)
  | object (members : List (String × Value)) (key : String)

/-- What the machine waits for, inside of what is open. The first item and the first key may be left out; a comma
calls for another one. -/
inductive State where
  | value (outer : List Open)
  | firstItem (outer : List Open)
  | firstKey (outer : List Open)
  | nextKey (members : List (String × Value)) (outer : List Open)
  | colon (members : List (String × Value)) (key : String) (outer : List Open)
  | after (v : Value) (outer : List Open)

/-- Reads the first token of a value. -/
def startValue (outer : List Open) : Token → Option State
  | .atom a => some (.after (.atom a) outer)
  | .openArray => some (.firstItem outer)
  | .openObject => some (.firstKey outer)
  | _ => none

def step : State → Token → Option State
  | .value outer, t => startValue outer t
  | .firstItem outer, .closeArray => some (.after (.array []) outer)
  | .firstItem outer, t => startValue (.array [] :: outer) t
  | .firstKey outer, .closeObject => some (.after (.object []) outer)
  | .firstKey outer, .atom (.text key) => some (.colon [] key outer)
  | .nextKey members outer, .atom (.text key) => some (.colon members key outer)
  | .colon members key outer, .colon => some (.value (.object members key :: outer))
  | .after v (.array items :: outer), .comma => some (.value (.array (v :: items) :: outer))
  | .after v (.array items :: outer), .closeArray => some (.after (.array (v :: items).reverse) outer)
  | .after v (.object members key :: outer), .comma => some (.nextKey ((key, v) :: members) outer)
  | .after v (.object members key :: outer), .closeObject =>
    some (.after (.object ((key, v) :: members).reverse) outer)
  | _, _ => none

def run (s : State) (ts : List Token) : Option State := ts.foldlM step s

/-- The value that the machine has read to its end. -/
def State.done? : State → Option Value
  | .after v [] => some v
  | _ => none

def value? (ts : List Token) : Option Value := (run (.value []) ts).bind State.done?

def read? (text : String) : Option Value := (tokens? text.toList).bind value?

end CuratedList.Json
