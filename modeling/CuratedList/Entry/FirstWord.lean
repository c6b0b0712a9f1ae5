import CuratedList.Entry.Context
import CuratedList.Entry.Violation
import CuratedList.Text.Words

/-! # The first word of a description

The word after the dash has to start with a capital or be one that needs none: it holds a digit, opens
with a quote or parenthesis, or is allowed by name.
-/

namespace CuratedList
set_option autoImplicit false

open Text

/-- A character that exempts the word it opens. -/
def isQuoteOpener (c : Char) : Bool := ['"', '\'', '“', '‘', '('].contains c

/-- The styles that a first word may have. -/
def isAcceptedStyle : CaseStyle → Bool
  | .camel | .capital | .constant | .pascal | .upper => true
  | .lower | .snake | .other => false

/-- A character that counts for the casing of a first word. -/
def isWordChar (c : Char) : Bool := isAlphanumeric c || c == '_'

/-- A word that needs no capital. -/
def isExemptWord (cx : Context) (word : List Char) : Bool :=
  word.head?.any isQuoteOpener || word.any isDigit || cx.isAllowed (String.ofList word)

/-- A word that may open a description. -/
def isAcceptedWord (cx : Context) (word : List Char) : Bool :=
  isExemptWord cx word || isAcceptedStyle (cx.casing (word.filter isWordChar))

/-- Checks the first word after the three characters of the dash in `dash`. -/
def checkFirstWord (cx : Context) (dash : List Char) (span : Span) : Verdict :=
  match (words (dash.drop 3)).head? with
  | none => reject .emptyStart span
  | some word => if isAcceptedWord cx word then .ok () else reject .invalidCasing span

end CuratedList
