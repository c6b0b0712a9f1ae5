import CuratedList.Text.Casing
import CuratedList.Text.Emoji

/-! # What the rules consult

The rules take four judgements from outside: which texts are absolute URLs, where emoji stand, which
style a word has, and which words are allowed whatever their casing.
-/

namespace CuratedList
set_option autoImplicit false

/-- The judgements that the rules consult. -/
structure Context where
  isAbsoluteUrl : String → Bool
  emoji : Text.EmojiFinder
  casing : List Char → Text.CaseStyle
  isAllowed : String → Bool

end CuratedList
