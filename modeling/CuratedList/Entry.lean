import CuratedList.Entry.Description
import CuratedList.Entry.Link
import CuratedList.Entry.Parts

/-! # Entries

An entry of a curated list is a link, a dash and a description. The rules run in that order, and the
first violation is the one reported.
-/

namespace CuratedList
set_option autoImplicit false

/-- Checks one entry. -/
def validateEntry (cx : Context) (item : Item) : Verdict := do
  match ← Parts.ofItem item with
  | .textLed => .ok ()
  | .linked link description =>
    validateLink cx link
    validateDescription cx description

end CuratedList
