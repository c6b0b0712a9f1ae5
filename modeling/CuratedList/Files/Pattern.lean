/-! # Name patterns

Patterns over the characters of a name. A question mark stands for one character, an asterisk for any
number of them, and brackets for one character of a class. Two asterisks that form a whole part of a path
stand for any number of directories.
-/

namespace CuratedList
set_option autoImplicit false

/-! ## Tokens -/

/-- Characters from `first` to `last`. -/
structure CharRange where
  first : Char
  last : Char
  deriving DecidableEq, Repr

/-- The character lies in one of the ranges. -/
def CharRange.anyHolds (ranges : List CharRange) (c : Char) : Bool :=
  ranges.any fun r => r.first ≤ c && c ≤ r.last

/-- What one part of a pattern stands for. -/
inductive PatternToken where
  | char (c : Char)
  | anyChar
  | anyChars
  | anyDirectories
  | oneOf (ranges : List CharRange)
  | noneOf (ranges : List CharRange)
  deriving DecidableEq, Repr

/-- Why a text is no pattern. -/
inductive PatternFault where
  | tooManyAsterisks
  | directoriesInName
  | openClass
  deriving DecidableEq, Repr

/-- The text of a fault. -/
def PatternFault.message : PatternFault → String
  | .tooManyAsterisks => "wildcards are either regular \x60*\x60 or recursive \x60**\x60"
  | .directoriesInName => "recursive wildcards must form a single path component"
  | .openClass => "invalid range pattern"

/-- A fault, and the number of characters before it. -/
structure PatternError where
  position : Nat
  fault : PatternFault
  deriving DecidableEq, Repr

/-- The text of an error. -/
def PatternError.message (e : PatternError) : String :=
  s!"Pattern syntax error near position {e.position}: {e.fault.message}"

/-! ## Reading patterns -/

/-- The ranges of a class: `a-b`, or single characters. -/
def charRanges : List Char → List CharRange
  | a :: '-' :: b :: cs => ⟨a, b⟩ :: charRanges cs
  | c :: cs => ⟨c, c⟩ :: charRanges cs
  | [] => []

/-- The characters of a class, which are at least one, and what follows its closing bracket. -/
def classBody? : List Char → Option (List Char × List Char)
  | [] => none
  | c :: cs =>
    match cs.dropWhile (· != ']') with
    | [] => none
    | _ :: rest => some (c :: cs.takeWhile (· != ']'), rest)

theorem length_lt_of_classBody? {cs body rest : List Char} (h : classBody? cs = some (body, rest)) :
    rest.length < cs.length := by
  unfold classBody? at h
  split at h
  · simp at h
  · rename_i c cs
    split at h
    · simp at h
    · rename_i d after hd
      simp only [Option.some.injEq, Prod.mk.injEq] at h
      have := (List.dropWhile_sublist (p := (· != ']')) (l := cs)).length_le
      rw [hd, h.2] at this
      simp only [List.length_cons] at this ⊢
      omega

/-- The tokens of a pattern from position `pos` on, after the character `before`. -/
def patternTokens (before : Option Char) (pos : Nat) (cs : List Char) :
    Except PatternError (List PatternToken) :=
  match cs with
  | [] => .ok []
  | '?' :: cs => (.anyChar :: ·) <$> patternTokens (some '?') (pos + 1) cs
  | '*' :: '*' :: '*' :: _ => .error ⟨pos + 2, .tooManyAsterisks⟩
  | '*' :: '*' :: cs =>
    if before.all (· == '/') then
      match cs with
      | [] => .ok [.anyDirectories]
      | '/' :: cs => (.anyDirectories :: ·) <$> patternTokens (some '/') (pos + 3) cs
      | _ => .error ⟨pos + 2, .directoriesInName⟩
    else .error ⟨pos - 1, .directoriesInName⟩
  | '*' :: cs => (.anyChars :: ·) <$> patternTokens (some '*') (pos + 1) cs
  | '[' :: '!' :: cs =>
    match _h : classBody? cs with
    | some (body, rest) =>
      (.noneOf (charRanges body) :: ·) <$> patternTokens (some ']') (pos + body.length + 3) rest
    | none => .error ⟨pos, .openClass⟩
  | '[' :: cs =>
    match _h : classBody? cs with
    | some (body, rest) =>
      (.oneOf (charRanges body) :: ·) <$> patternTokens (some ']') (pos + body.length + 2) rest
    | none => .error ⟨pos, .openClass⟩
  | c :: cs => (.char c :: ·) <$> patternTokens (some c) (pos + 1) cs
  termination_by cs.length
  decreasing_by
    all_goals simp only [List.length_cons]
    all_goals first
      | omega
      | (have shorter := length_lt_of_classBody? _h; omega)

/-- The tokens of a pattern. -/
def PatternToken.ofText (text : String) : Except PatternError (List PatternToken) :=
  patternTokens none 0 text.toList

/-- The pattern for exactly this text. -/
def literalPattern (text : String) : String :=
  String.ofList (text.toList.flatMap fun c =>
    if ['?', '*', '[', ']'].contains c then ['[', c, ']'] else [c])

/-! ## Matching -/

/-- `p` holds of some end of the text. -/
def anySuffix (p : List Char → Bool) : List Char → Bool
  | [] => p []
  | c :: cs => p (c :: cs) || anySuffix p cs

/-- The tokens match the whole text. -/
def PatternToken.allMatch : List PatternToken → List Char → Bool
  | [], cs => cs.isEmpty
  | .anyChars :: ts, cs | .anyDirectories :: ts, cs => anySuffix (allMatch ts) cs
  | _ :: _, [] => false
  | .char d :: ts, c :: cs => d == c && allMatch ts cs
  | .anyChar :: ts, _ :: cs => allMatch ts cs
  | .oneOf ranges :: ts, c :: cs => CharRange.anyHolds ranges c && allMatch ts cs
  | .noneOf ranges :: ts, c :: cs => !CharRange.anyHolds ranges c && allMatch ts cs

/-- The text that tokens stand for, if they stand for a single one. -/
def PatternToken.literal? : List PatternToken → Option (List Char)
  | [] => some []
  | .char c :: ts => (c :: ·) <$> literal? ts
  | _ => none

end CuratedList
