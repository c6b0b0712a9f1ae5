import CuratedList.Text.Normal
import CuratedList.Url.Idna.Direction
import CuratedList.Url.Idna.Joining
import CuratedList.Url.Idna.MappedHigh
import CuratedList.Url.Idna.MappedLow
import CuratedList.Url.Idna.MappedRuns
import CuratedList.Url.Idna.MappedTextHigh
import CuratedList.Url.Idna.MappedTextLow
import CuratedList.Url.Idna.Mark
import CuratedList.Url.Idna.Valid
import CuratedList.Url.Punycode

/-! # Domain names

The labels of a domain name that may hold any characters. Characters are mapped and normalised first,
labels in ASCII form are decoded, and each label is checked: its characters, its joiners, and the order of
its directions if some label is written from right to left.
-/

namespace CuratedList.Url
set_option autoImplicit false

/-! ## Mapping -/

/-- What a character is mapped to; nothing if no domain may hold it. -/
def mapChar? (c : Char) : Option (List Char) :=
  let n := c.toNat
  if validRanges.holds c then some [c]
  else if ignoredRanges.holds c then some []
  else
    match mappedRuns.find? fun (first, last, step, _) =>
        first ≤ n && n ≤ last && (n - first) % step == 0 with
    | some (_, _, _, distance) => some [Char.ofNat ((n : Int) + distance).toNat]
    | none =>
      match (mappedLow.lookup n).or (mappedHigh.lookup n) with
      | some m => some [Char.ofNat m]
      | none =>
        ((mappedTextLow.lookup n).or (mappedTextHigh.lookup n)).map fun ms => ms.map Char.ofNat

/-- A character of ASCII that no domain may hold. -/
def isForbidden (c : Char) : Bool :=
  c.toNat ≤ 0x20 || c.toNat == 0x7F ||
    ['%', '#', '/', ':', '<', '>', '?', '@', '[', '\\', ']', '^', '|'].contains c

/-- The parts of a text between periods. -/
def labelsFrom : (label cs : List Char) → List (List Char)
  | label, [] => [label.reverse]
  | label, '.' :: cs => label.reverse :: labelsFrom [] cs
  | label, c :: cs => labelsFrom (c :: label) cs

/-- The labels of a text, joined by periods. -/
def labels (cs : List Char) : List (List Char) := labelsFrom [] cs

/-! ## Joiners -/

/-- A joiner may follow a mark of this kind. -/
def isVirama (c : Char) : Bool := Text.combiningClass c.toNat == 9

/-- A joiner stands only where scripts need it; `before` is the text before, last character first. -/
def joinersFit : (before cs : List Char) → Bool
  | _, [] => true
  | before, c :: cs =>
    let afterVirama := before.head?.any isVirama
    let fits :=
      if c.toNat == 0x200D then afterVirama
      else if c.toNat == 0x200C then
        afterVirama ||
          (((before.dropWhile transparentRanges.holds).head?.any joinsAfterRanges.holds) &&
            ((cs.dropWhile transparentRanges.holds).head?.any joinsBeforeRanges.holds))
      else true
    fits && joinersFit (c :: before) cs

/-! ## Directions -/

/-- The direction of a character. -/
inductive Direction where
  | left
  | right
  | arabicNumber
  | europeanNumber
  | mark
  | neutral
  deriving DecidableEq, Repr

/-- The direction of a character that a domain may hold. -/
def direction (c : Char) : Direction :=
  if rightToLeftRanges.holds c || arabicLetterRanges.holds c then .right
  else if arabicNumberRanges.holds c then .arabicNumber
  else if europeanNumberRanges.holds c then .europeanNumber
  else if nonspacingMarkRanges.holds c then .mark
  else if neutralRanges.holds c then .neutral
  else .left

/-- A label holds characters written from right to left. -/
def isRightToLeft (label : List Char) : Bool :=
  label.any fun c => direction c == .right || direction c == .arabicNumber

/-- The directions of a label fit together: it starts with a letter, holds only what goes with that
letter's direction, and ends with a letter or number before its last marks. -/
def directionsFit (label : List Char) : Bool :=
  let ds := label.map direction
  let last := (ds.reverse.dropWhile (· == .mark)).head?
  match ds with
  | [] => true
  | .right :: _ =>
    ds.all (· != .left) &&
      last.any (fun d => d == .right || d == .europeanNumber || d == .arabicNumber) &&
      !(ds.contains .europeanNumber && ds.contains .arabicNumber)
  | .left :: _ =>
    ds.all (fun d => d != .right && d != .arabicNumber) &&
      last.any fun d => d == .left || d == .europeanNumber
  | _ => false

/-! ## Labels -/

/-- So many characters a label with characters outside ASCII may have at most. -/
def maxLabel : Nat := 1000

/-- So many characters the ASCII form of a label may have at most. -/
def maxCoded : Nat := 2000

/-- The characters of a label may stand in it. -/
def isValidLabel (label : List Char) : Bool :=
  label.all validRanges.holds && !(label.head?.any markRanges.holds) && joinersFit [] label

/-- A label with its ASCII form decoded, if it is valid. -/
def decodeLabel? (label : List Char) : Option (List Char) :=
  match Text.dropPrefix? ['x', 'n', '-', '-'] label with
  | none =>
    let ascii := label.all fun c => c.toNat < 128
    if ascii || (isValidLabel label && label.length ≤ maxLabel) then some label else none
  | some coded =>
    if !(coded.all fun c => c.toNat < 128) || coded.length > maxCoded then none
    else
      (Punycode.decode? coded).bind fun decoded =>
        if (decoded.all fun c => c.toNat < 128) || decoded.contains '.' || !isValidLabel decoded ||
            Text.normalize decoded != decoded then none
        else some decoded

/-- The labels of a domain name, mapped and decoded, if the name is valid. -/
def domainLabels? (domain : List Char) : Option (List (List Char)) := do
  let mapped ← domain.mapM mapChar?
  let normal := Text.normalize mapped.flatten
  if normal.any isForbidden then none
  else
    let decoded ← (labels normal).mapM decodeLabel?
    if decoded.any isRightToLeft && !decoded.all directionsFit then none else some decoded

end CuratedList.Url
