import CuratedList.Toml.Value

/-! # Values without quotes

Truth values, numbers and dates. A number must be one that can be held: an integer of 128 bits, or a
floating-point number that is not too large.
-/

namespace CuratedList.Toml
set_option autoImplicit false

/-! ## Digits -/

/-- The value of a digit in bases up to sixteen. -/
def digitValue? (c : Char) : Option Nat :=
  if '0' ≤ c && c ≤ '9' then some (c.toNat - '0'.toNat)
  else if 'a' ≤ c && c ≤ 'f' then some (c.toNat - 'a'.toNat + 10)
  else if 'A' ≤ c && c ≤ 'F' then some (c.toNat - 'A'.toNat + 10)
  else none

/-- A digit of a base. -/
def isDigitOf (base : Nat) (c : Char) : Bool := (digitValue? c).any (· < base)

/-- Digits of a base; a single underscore may stand between two of them. -/
def areDigits (base : Nat) : List Char → Bool
  | [] => false
  | [c] => isDigitOf base c
  | c :: '_' :: cs => isDigitOf base c && areDigits base cs
  | c :: cs => isDigitOf base c && areDigits base cs

/-- The number that digits denote. -/
def digitsValue (base : Nat) (cs : List Char) : Nat :=
  (cs.filterMap digitValue?).foldl (fun n d => n * base + d) 0

/-- Decimal digits without a zero in front. -/
def isDecimal (cs : List Char) : Bool :=
  areDigits 10 cs && (cs.length == 1 || cs.head? != some '0')

/-- A text without its sign, and whether the sign is a minus. -/
def splitSign : List Char → Bool × List Char
  | '+' :: cs => (false, cs)
  | '-' :: cs => (true, cs)
  | cs => (false, cs)

/-! ## Numbers -/

/-- An integer: decimal with an optional sign, or hexadecimal, octal or binary. -/
def isInteger (cs : List Char) : Bool :=
  let prefixed := fun (base : Nat) (ds : List Char) =>
    areDigits base ds && decide (digitsValue base ds < Nat.pow 2 128)
  match cs with
  | '0' :: 'x' :: ds => prefixed 16 ds
  | '0' :: 'o' :: ds => prefixed 8 ds
  | '0' :: 'b' :: ds => prefixed 2 ds
  | cs =>
    let (negative, ds) := splitSign cs
    isDecimal ds &&
      if negative then decide (digitsValue 10 ds ≤ Nat.pow 2 127)
      else decide (digitsValue 10 ds < Nat.pow 2 128)

/-- The least number that is too large for a floating-point number. -/
def floatLimit : Nat := Nat.pow 2 1024 - Nat.pow 2 970

/-- The number `digits * 10 ^ exponent` is below the limit of floating-point numbers. -/
def fitsFloat (digits : Nat) (exponent : Int) : Bool :=
  let size := (Nat.toDigits 10 digits).length + exponent
  if digits = 0 || size < 300 then true
  else if 320 < size then false
  else if 0 ≤ exponent then digits * Nat.pow 10 exponent.toNat < floatLimit
  else digits < floatLimit * Nat.pow 10 (-exponent).toNat

/-- A floating-point number: decimal digits with a fraction, an exponent or both, or a name. -/
def isFloat (cs : List Char) : Bool :=
  let (_, body) := splitSign cs
  if body == "inf".toList || body == "nan".toList then true
  else
    let isExponentMark := fun c : Char => c == 'e' || c == 'E'
    let mantissa := body.takeWhile fun c => !isExponentMark c
    let exponent := (body.dropWhile fun c => !isExponentMark c).drop 1
    let whole := mantissa.takeWhile (· != '.')
    let fraction := (mantissa.dropWhile (· != '.')).drop 1
    let hasExponent := body.any isExponentMark
    let hasFraction := mantissa.contains '.'
    let (negative, exponentDigits) := splitSign exponent
    let size : Int := digitsValue 10 exponentDigits
    let places : Int := (fraction.filter (· != '_')).length
    isDecimal whole && (hasExponent || hasFraction) && (!hasFraction || areDigits 10 fraction) &&
      (!hasExponent || areDigits 10 exponentDigits) &&
      fitsFloat (digitsValue 10 (whole ++ fraction)) ((if negative then -size else size) - places)

/-! ## Dates and times -/

/-- A number of exactly so many decimal digits, and what follows it. -/
def fixedNumber? (width : Nat) (cs : List Char) : Option (Nat × List Char) :=
  let digits := cs.take width
  if digits.length == width && digits.all (isDigitOf 10) then
    some (digitsValue 10 digits, cs.drop width)
  else none

/-- The days of a month. -/
def daysInMonth (year month : Nat) : Nat :=
  if month == 2 then
    if (year % 4 == 0 && year % 100 != 0) || year % 400 == 0 then 29 else 28
  else if [4, 6, 9, 11].contains month then 30
  else 31

/-- What follows a date. -/
def afterDate? (cs : List Char) : Option (List Char) := do
  let (year, cs) ← fixedNumber? 4 cs
  let '-' :: cs := cs | none
  let (month, cs) ← fixedNumber? 2 cs
  let '-' :: cs := cs | none
  let (day, cs) ← fixedNumber? 2 cs
  if 1 ≤ month && month ≤ 12 && 1 ≤ day && day ≤ daysInMonth year month then some cs else none

/-- What follows a time of day. Seconds, and fractions of them, may be left out. -/
def afterTime? (cs : List Char) : Option (List Char) := do
  let (hour, cs) ← fixedNumber? 2 cs
  let ':' :: cs := cs | none
  let (minute, cs) ← fixedNumber? 2 cs
  if 23 < hour || 59 < minute then none
  else
    match cs with
    | ':' :: cs =>
      let (second, cs) ← fixedNumber? 2 cs
      if 60 < second then none
      else
        match cs with
        | '.' :: c :: cs =>
          if isDigitOf 10 c then some (cs.dropWhile (isDigitOf 10)) else none
        | cs => some cs
    | cs => some cs

/-- An offset from universal time. -/
def isOffset (cs : List Char) : Bool :=
  match cs with
  | ['Z'] | ['z'] => true
  | '+' :: cs | '-' :: cs =>
    match fixedNumber? 2 cs with
    | some (hour, ':' :: cs) =>
      match fixedNumber? 2 cs with
      | some (minute, []) => hour ≤ 23 && minute ≤ 59
      | _ => false
    | _ => false
  | _ => false

/-- A date, a time, or both with an optional offset. -/
def isDate (cs : List Char) : Bool :=
  match afterDate? cs with
  | some [] => true
  | some (c :: rest) =>
    (c == 'T' || c == 't' || c == ' ') && (afterTime? rest).any fun cs => cs.isEmpty || isOffset cs
  | none => (afterTime? cs).any List.isEmpty

/-! ## Scalars -/

/-- The value of a text without quotes. -/
def scalar? (cs : List Char) : Option Value :=
  let written := String.ofList cs
  if written = "true" then some (.boolean true)
  else if written = "false" then some (.boolean false)
  else if isInteger cs || isFloat cs then some (.number written)
  else if isDate cs then some (.date written)
  else none

end CuratedList.Toml
