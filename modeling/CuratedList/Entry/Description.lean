import CuratedList.Document
import CuratedList.Entry.Ending
import CuratedList.Entry.FirstWord

/-! # The description rule

A description opens with the separator `" - "`. Code spans and blank texts at its end are badges and
are set aside. What remains has to end properly, has to consist of nodes of allowed kinds, and its
first word has to be cased properly. Two forms are exempt from all of this: emoji alone, and a single
parenthetical.
-/

namespace CuratedList
set_option autoImplicit false

open Text

/-- The characters between a link and its description. -/
def dashSeparator : List Char := [' ', '-', ' ']

/-- The kinds that a node of a description may have. -/
def isDescriptionKind : Inline.Kind → Bool
  | .emphasis | .footnoteReference | .html | .image | .code | .link | .linkReference | .strong
  | .text => true
  | .delete | .lineBreak => false

/-- The kinds that the last node of a description may have. -/
def isTerminalKind : Inline.Kind → Bool
  | .emphasis | .html | .image | .link | .strong | .text => true
  | .delete | .code | .linkReference | .footnoteReference | .lineBreak => false

/-! ## Exemptions -/

/-- The text is one parenthetical, then only white space. -/
def isParenthetical : List Char → Bool
  | '(' :: cs =>
    let body := cs.takeWhile (· != ')')
    !body.isEmpty &&
      match cs.dropWhile (· != ')') with
      | _ :: rest => allBlank rest
      | [] => false
  | _ => false

/-- The text without a first white-space character, if it starts with one. -/
def dropOneBlank : List Char → List Char
  | c :: cs => if isBlank c then cs else c :: cs
  | [] => []

/-- The text is exempt from the rules: emoji only, or one parenthetical with emoji around it or not.
A text that starts with the separator never is. -/
def isSpecialCase (cx : Context) (text : List Char) : Bool :=
  if dashSeparator.isPrefixOf text then false
  else
    let bare := cx.emoji.strip text
    allBlank bare || isParenthetical (dropOneBlank text) ||
      (bare.length != text.length && isParenthetical (trimStart bare))

/-! ## Badges -/

/-- A trailing annotation: a code span or a blank text. -/
def isBadge : Inline → Bool
  | .code .. => true
  | .text value _ => allBlank value.toList
  | _ => false

/-- The description without its trailing badges, and whether there were any. Nothing if every node is
a badge. -/
def splitBadges (description : List Inline) : Option (List Inline × Bool) :=
  match description.reverse.dropWhile isBadge with
  | [] => none
  | last :: before =>
    let kept := (last :: before).reverse
    some (kept, decide (kept.length < description.length))

/-! ## The separator -/

/-- Why a first node with this text is no separator. -/
def separatorFault (text : List Char) : ViolationKind :=
  match trimStart text with
  | '-' :: _ => .separatorWhitespace
  | '–' :: _ | '—' :: _ => .separatorDashVariant
  | _ => .missingSeparator

/-- The text of the first node, if it opens the description: it starts with the separator, or it is
the whole description `text`, a dash that ends in an emoji. -/
def separatorText? (cx : Context) (first : Inline) (text : List Char) : Option (List Char) :=
  first.asText.bind fun value =>
    let dash := value.toList
    if dashSeparator.isPrefixOf dash ||
        (dash == text && (trimStart dash).head? == some '-' && cx.emoji.endsWithEmoji dash) then
      some dash
    else none

/-- The text of the separator node of a description, which starts with `first`. -/
def checkSeparator (cx : Context) (first : Inline) (rest : List Inline) (text : List Char) :
    Except Violation (List Char) :=
  match separatorText? cx first text with
  | some dash => .ok dash
  | none =>
    if (first :: rest).all isBadge then reject .onlyBadges first.span
    else reject (separatorFault first.plainText.toList) first.span

/-! ## The rule -/

/-- The last node before the badges may end a description. -/
def checkEnding (cx : Context) (kept : List Inline) (hasBadges : Bool) (last : Inline) : Verdict :=
  if !isTerminalKind last.kind then reject .missingPunctuation last.span
  else
    match last.asText with
    | none => .ok ()
    | some value =>
      let full := (Inline.plainTextAll kept).toList
      let valid :=
        if hasBadges then endingIsValid cx.emoji (trimEnd full) (trimEnd value.toList)
        else endingIsValid cx.emoji full value.toList
      if valid then .ok () else reject .missingPunctuation last.span

/-- The nodes before the badges have allowed kinds, and the first word after the dash is cased. -/
def checkContent (cx : Context) (kept : List Inline) (dash : List Char) (span : Span) : Verdict :=
  if kept.length = 1 then checkFirstWord cx dash span
  else
    match kept.find? fun node => !isDescriptionKind node.kind with
    | some node => reject .invalidMarkup node.span
    | none => if dash.length > dashSeparator.length then checkFirstWord cx dash span else .ok ()

/-- Checks a description: everything after the link of an entry. -/
def validateDescription (cx : Context) (description : List Inline) : Verdict :=
  match description with
  | [] => .ok ()
  | first :: rest =>
    let text := (Inline.plainTextAll (first :: rest)).toList
    if isSpecialCase cx text then .ok ()
    else do
      let dash ← checkSeparator cx first rest text
      match splitBadges (first :: rest) with
      | none => reject .onlyBadges first.span
      | some (kept, hasBadges) =>
        match kept.getLast? with
        | none => reject .onlyBadges first.span
        | some last =>
          checkEnding cx kept hasBadges last
          checkContent cx kept dash first.span

end CuratedList
