import CuratedList.Text.Letters.Alphabetic
import CuratedList.Text.Letters.Uppercase
import CuratedList.Text.Letters.Lowercase
import CuratedList.Text.Letters.Numeric

/-! # Letter classes

The classes of characters that casing and word rules ask about. Each is a look-up in the table of
one Unicode property; nothing else in the library unfolds the tables.
-/

namespace CuratedList.Text
set_option autoImplicit false

/-- A character with the property `Alphabetic`. -/
def isAlphabetic (c : Char) : Bool := alphabeticRanges.holds c

/-- A character with the property `Uppercase`. -/
def isUppercase (c : Char) : Bool := uppercaseRanges.holds c

/-- A character with the property `Lowercase`. -/
def isLowercase (c : Char) : Bool := lowercaseRanges.holds c

/-- A character of the general category `N`. -/
def isNumeric (c : Char) : Bool := numericRanges.holds c

/-- A letter or a number. -/
def isAlphanumeric (c : Char) : Bool := isAlphabetic c || isNumeric c

/-- One of the ten digits of ASCII. -/
def isDigit (c : Char) : Bool := '0' ≤ c && c ≤ '9'

end CuratedList.Text
