import CuratedList.Url.Host

/-! # Absolute addresses

An address is absolute if it has a scheme and a host. The scheme decides how the host is found: after
any slashes for the schemes of the web, after exactly two for all others, and files have no host when
they name the local machine or a drive of it.
-/

namespace CuratedList.Url
set_option autoImplicit false

/-! ## Schemes -/

/-- The kinds of scheme, which differ in how the host is found. -/
inductive SchemeKind where
  | web
  | file
  | other
  deriving DecidableEq, Repr

/-- The kind of a scheme. -/
def SchemeKind.ofName (name : String) : SchemeKind :=
  if ["http", "https", "ws", "wss", "ftp"].contains name then .web
  else if name = "file" then .file
  else .other

/-- A letter of ASCII. -/
def isAsciiLetter (c : Char) : Bool := ('a' ≤ c && c ≤ 'z') || ('A' ≤ c && c ≤ 'Z')

/-- A digit of ASCII. -/
def isAsciiDigit (c : Char) : Bool := '0' ≤ c && c ≤ '9'

/-- A character that a scheme may hold after its first letter. -/
def isSchemeChar (c : Char) : Bool :=
  isAsciiLetter c || isAsciiDigit c || c == '+' || c == '-' || c == '.'

/-- The scheme that an address starts with, and what follows its colon. -/
def scheme? (cs : List Char) : Option (SchemeKind × List Char) :=
  if !cs.head?.any isAsciiLetter then none
  else
    match cs.dropWhile isSchemeChar with
    | ':' :: rest =>
      some (.ofName (String.ofList ((cs.takeWhile isSchemeChar).map Char.toLower)), rest)
    | _ => none

/-- A backslash stands for a slash in the schemes that have a known structure. -/
def SchemeKind.isSlash (k : SchemeKind) (c : Char) : Bool := c == '/' || (k != .other && c == '\\')

/-- A character that ends the part between slashes. -/
def SchemeKind.endsPart (k : SchemeKind) (c : Char) : Bool := k.isSlash c || c == '?' || c == '#'

/-! ## Authorities -/

/-- The host of an authority, and the port after a colon that stands outside brackets. -/
def splitPort : (inBrackets : Bool) → List Char → List Char × Option (List Char)
  | _, [] => ([], none)
  | inBrackets, c :: cs =>
    if c == ':' && !inBrackets then ([], some cs)
    else
      let (host, port) := splitPort (c == '[' || (inBrackets && c != ']')) cs
      (c :: host, port)

/-- The greatest number of a port. -/
def maxPort : Nat := 65535

/-- A port is a number, or nothing. -/
def isPort (cs : List Char) : Bool :=
  (cs.dropWhile isAsciiDigit).head?.all (· == '\\') &&
    (numeral? 10 0 (cs.takeWhile isAsciiDigit)).any (· ≤ maxPort)

/-- A host of a scheme with a known structure: an IPv6 address in brackets, or a domain. -/
def isKnownHost (host : List Char) : Bool :=
  if host.head? = some '[' then (bracketed? host).any isIpv6 else (domain? host).isSome

/-- A host of any other scheme: an IPv6 address in brackets, or a text without certain characters. -/
def isFreeHost (host : List Char) : Bool :=
  if host.head? = some '[' then (bracketed? host).any isIpv6
  else !host.isEmpty && !host.any isForbiddenInHost

/-- An authority names a host after the last `@`, and its port is a number. -/
def authorityHasHost (k : SchemeKind) (authority : List Char) : Bool :=
  let (host, port) := splitPort false (Text.takeWhileEnd (· != '@') authority)
  (if k = .other then isFreeHost host else isKnownHost host) && port.all isPort

/-! ## Files -/

/-- A letter and a colon, or a bar in its place: a drive. -/
def isDrive : List Char → Bool
  | [letter, mark] => isAsciiLetter letter && (mark == ':' || mark == '|')
  | _ => false

/-- The parts of a path, between slashes of both kinds. -/
def pathParts : (part cs : List Char) → List (List Char)
  | part, [] => [part.reverse]
  | part, c :: cs =>
    if c == '?' || c == '#' then [part.reverse]
    else if SchemeKind.file.isSlash c then part.reverse :: pathParts [] cs
    else pathParts (c :: part) cs

/-- A part of a path with each `%2e` read as a period. -/
def readPeriods : List Char → List Char
  | '%' :: '2' :: 'e' :: cs => '.' :: readPeriods cs
  | '%' :: '2' :: 'E' :: cs => '.' :: readPeriods cs
  | c :: cs => c :: readPeriods cs
  | [] => []

/-- The parts of a path put a drive at its top; `above` holds the parts above, last one first. -/
def reachesDrive : (above parts : List (List Char)) → Bool
  | _, [] => false
  | above, part :: parts =>
    if readPeriods part = ['.', '.'] then
      reachesDrive (if above.head?.any isDrive then above else above.tail) parts
    else if readPeriods part = ['.'] then reachesDrive above parts
    else (above.isEmpty && isDrive part) || reachesDrive (part :: above) parts

/-- The host of a file is not the local machine, and its path has no drive at its top. -/
def fileHasHost (cs : List Char) : Bool :=
  let host := cs.takeWhile fun c => !SchemeKind.file.endsPart c
  let path :=
    match cs.dropWhile fun c => !SchemeKind.file.endsPart c with
    | c :: rest => if SchemeKind.file.isSlash c then rest else []
    | [] => []
  !isDrive host && isKnownHost host && domain? host != some ["localhost".toList] &&
    !reachesDrive [] (pathParts [] path)

/-! ## Addresses -/

/-- A control character or a space. -/
def isControlOrSpace (c : Char) : Bool := c.toNat ≤ 0x20

/-- The characters of an address: nothing blank around it, no tabs and no line breaks in it. -/
def addressChars (text : List Char) : List Char :=
  (Text.dropWhileEnd isControlOrSpace ((Text.trim text).dropWhile isControlOrSpace)).filter fun c =>
    c != '\t' && c != '\n' && c != '\r'

/-- What follows the scheme names a host. -/
def SchemeKind.hasHost (k : SchemeKind) (rest : List Char) : Bool :=
  let authority := fun cs : List Char => authorityHasHost k (cs.takeWhile fun c => !k.endsPart c)
  match k with
  | .web => authority (rest.dropWhile k.isSlash)
  | .file =>
    match rest with
    | a :: b :: cs => k.isSlash a && k.isSlash b && fileHasHost cs
    | _ => false
  | .other => (Text.dropPrefix? ['/', '/'] rest).any authority

/-- A text is an absolute address: it has a scheme and a host. -/
def isAbsolute (text : String) : Bool :=
  match scheme? (addressChars text.toList) with
  | some (k, rest) => k.hasHost rest
  | none => false

end CuratedList.Url
