import CuratedList.Url.Idna

/-! # Hosts

What may stand as the host of an address: a domain name, an IPv4 address in any of its notations, or an
IPv6 address in brackets. Schemes without a known structure take any text without certain characters.
-/

namespace CuratedList.Url
set_option autoImplicit false

/-- The value of a hexadecimal digit. -/
def hexDigit? (c : Char) : Option Nat :=
  if '0' ≤ c && c ≤ '9' then some (c.toNat - '0'.toNat)
  else if 'a' ≤ c && c ≤ 'f' then some (c.toNat - 'a'.toNat + 10)
  else if 'A' ≤ c && c ≤ 'F' then some (c.toNat - 'A'.toNat + 10)
  else none

/-- The number that digits of a base denote. -/
def numeral? (base : Nat) : (value : Nat) → List Char → Option Nat
  | value, [] => some value
  | value, c :: cs =>
    match hexDigit? c with
    | some d => if d < base then numeral? base (value * base + d) cs else none
    | none => none

/-! ## IPv4 -/

/-- A part of an IPv4 address: hexadecimal after `0x`, octal after `0`, else decimal. -/
def ipv4Number? : List Char → Option Nat
  | [] => none
  | '0' :: 'x' :: cs => numeral? 16 0 cs
  | '0' :: 'X' :: cs => numeral? 16 0 cs
  | '0' :: c :: cs => numeral? 8 0 (c :: cs)
  | cs => numeral? 10 0 cs

/-- The parts of a host, without an empty one at the end. -/
def hostParts (host : List (List Char)) : List (List Char) :=
  if host.getLast? = some [] then host.dropLast else host

/-- A host whose last part is a number has to be an IPv4 address. -/
def endsInNumber (host : List (List Char)) : Bool :=
  match (hostParts host).getLast? with
  | none => false
  | some part =>
    (!part.isEmpty && part.all fun c => '0' ≤ c && c ≤ '9') || (ipv4Number? part).isSome

/-- Up to four numbers, all but the last below 256, that fit into 32 bits. -/
def isIpv4 (host : List (List Char)) : Bool :=
  let parts := hostParts host
  match parts.mapM ipv4Number? with
  | none => false
  | some numbers =>
    match numbers.reverse with
    | [] => false
    | last :: before =>
      numbers.length ≤ 4 && before.all (· ≤ 255) && decide (last < Nat.pow 256 (5 - numbers.length))

/-! ## IPv6 -/

/-- Four decimal numbers below 256 without leading zeros, joined by periods. -/
def isDottedQuad (cs : List Char) : Bool :=
  let parts := labels cs
  parts.length == 4 && parts.all fun part =>
    match part with
    | [] => false
    | c :: rest =>
      part.length ≤ 3 && part.all (fun d => '0' ≤ d && d ≤ '9') && (rest.isEmpty || c != '0') &&
        (numeral? 10 0 part).any (· ≤ 255)

/-- The rest of an IPv6 address after `pieces` pieces; `compressed` tells whether a double colon came
before. -/
def ipv6From (pieces : Nat) (compressed : Bool) (cs : List Char) : Bool :=
  match cs with
  | [] => compressed || pieces == 8
  | ':' :: rest => pieces < 8 && !compressed && ipv6From (pieces + 1) true rest
  | c :: rest =>
    let digits := ((c :: rest).takeWhile fun d => (hexDigit? d).isSome).take 4
    if 8 ≤ pieces then false
    else
      match _h : (c :: rest).drop digits.length with
      | [] => digits.length ≠ 0 && (compressed || pieces == 7)
      | '.' :: _ =>
        digits.length ≠ 0 && pieces ≤ 6 && isDottedQuad (c :: rest) && (compressed || pieces == 6)
      | ':' :: after => digits.length ≠ 0 && !after.isEmpty && ipv6From (pieces + 1) compressed after
      | _ => false
  termination_by cs.length
  decreasing_by
    · simp
    · have := congrArg List.length _h
      simp only [List.length_drop, List.length_cons] at this ⊢
      omega

/-- An IPv6 address. -/
def isIpv6 : List Char → Bool
  | ':' :: ':' :: rest => ipv6From 1 true rest
  | ':' :: _ => false
  | cs => ipv6From 0 false cs

/-- The text between brackets, if the text is bracketed. -/
def bracketed? (cs : List Char) : Option (List Char) :=
  match cs with
  | '[' :: rest => if rest.getLast? = some ']' then some rest.dropLast else none
  | _ => none

/-! ## Hosts -/

/-- The bytes of a text, with `%` and two hexadecimal digits read as one byte. -/
def percentDecode : List Char → List UInt8
  | '%' :: a :: b :: cs =>
    match hexDigit? a, hexDigit? b with
    | some x, some y => UInt8.ofNat (x * 16 + y) :: percentDecode cs
    | _, _ => 37 :: percentDecode (a :: b :: cs)
  | c :: cs => c.toString.toUTF8.toList ++ percentDecode cs
  | [] => []

/-- The domain name, or IPv4 address, that a host names; its labels. -/
def domain? (cs : List Char) : Option (List (List Char)) :=
  (String.fromUTF8? ⟨(percentDecode cs).toArray⟩).bind fun decoded =>
    match domainLabels? decoded.toList with
    | none | some [[]] => none
    | some host => if endsInNumber host && !isIpv4 host then none else some host

/-- A character that no host may hold, whatever its scheme. -/
def isForbiddenInHost (c : Char) : Bool :=
  ['\x00', '\t', '\n', '\r', ' ', '#', '/', ':', '<', '>', '?', '@', '[', '\\', ']', '^', '|'].contains c

end CuratedList.Url
