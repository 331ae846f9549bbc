import AccessorSynthesis.Toml.Text
import AccessorSynthesis.Toml.Value

/-!
# Numbers, dates and times

The scalars of TOML that begin with a digit or a sign, and the special floating-point numbers.
Digits may have single underscores between them. Integers have 64 bits, and floating-point numbers
that are too large are refused, but for negative ones, which become infinite.
-/

namespace AccessorSynthesis
namespace Toml
namespace Scanner

/-! ## Digits -/

/-- Digits behind those in `found`, which holds the earlier ones in reverse. -/
def digitsOnto (isDigit : Char → Bool) (found : List Char) : Scanner (List Char)
  | [] => some (found.reverse, [])
  | c :: rest =>
      if isDigit c then digitsOnto isDigit (c :: found) rest
      else
        match c, rest with
        | '_', d :: rest =>
            if isDigit d then digitsOnto isDigit (d :: found) rest
            else some (found.reverse, '_' :: d :: rest)
        | c, rest => some (found.reverse, c :: rest)

/-- One digit or more, with underscores between them left out. -/
def digits (isDigit : Char → Bool) : Scanner (List Char) := do
  let first ← satisfying isDigit
  digitsOnto isDigit [first]

/-- A sign, and whether it is a minus. -/
def sign : Scanner Bool := do
  if ← accept '-' then return true
  let _ ← accept '+'
  return false

/-- The digits of a whole number, which has no leading zeros. -/
def wholeDigits : Scanner (List Char) := do
  if ← accept '0' then return ['0'] else digits Char.isDigit

/-! ## Integers -/

/-- The absolute value that digits stand for. All that do not fit in 64 bits are alike, so that long
ones need not be computed. -/
def absolute (base : Nat) (digits : List Char) : Int := numberUpTo (1 <<< 64) base digits

/-- An integer, unless it does not fit in 64 bits. -/
def fitting (value : Int) : Scanner Value :=
  if Int64.minValue.toInt ≤ value ∧ value ≤ Int64.maxValue.toInt then return .integer value
  else failure

/-- An integer of another base, with the mark of that base in front. -/
def based (mark : String) (base : Nat) (isDigit : Char → Bool) : Scanner Value := do
  word mark
  fitting (absolute base (← digits isDigit))

/-- An integer in decimal. -/
def decimal : Scanner Value := do
  let isNegative ← sign
  let magnitude := absolute 10 (← wholeDigits)
  fitting (if isNegative then -magnitude else magnitude)

/-- An integer. -/
def integer : Scanner Value :=
  either (based "0x" 16 isHexDigit) <|
    either (based "0o" 8 fun c => '0' ≤ c && c ≤ '7') <|
      either (based "0b" 2 fun c => c == '0' || c == '1') decimal

/-! ## Floating-point numbers -/

/-- How many digits decide which floating-point number is nearest. A number halfway between two
neighbours has fewer. -/
def decisiveDigits : Nat := 800

/-- The floating-point number nearest to `number * 10 ^ exponent`. Exponents so large that the
result is certain are cut off first. -/
def nearestScaled (number : Nat) (exponent : Int) : Float :=
  let magnitude := (Nat.toDigits 10 number).length + exponent
  if number = 0 ∨ magnitude < -400 then 0
  else if 400 < magnitude then 1 / 0
  else Float.ofScientific number (exponent < 0) exponent.natAbs

/-- The floating-point number nearest to the digits times `10 ^ exponent`. Of the digits behind the
decisive ones it only matters whether they are all zero, so that a single one can stand for them. -/
def nearestFloat (digits : List Char) (exponent : Int) : Float :=
  let significant := digits.dropWhile (· == '0')
  let number := numberOf 10 (significant.take decisiveDigits)
  let further := significant.drop decisiveDigits
  if further.all (· == '0') then nearestScaled number (exponent + further.length)
  else nearestScaled (10 * number + 1) (exponent + further.length - 1)

/-- How far exponents are read: once one has come to this, the digits behind it do not count. -/
def exponentLimit : Nat := 65536

/-- The exponent of a floating-point number. -/
def exponentPart : Scanner Int := do
  let _ ← satisfying fun c => c == 'e' || c == 'E'
  let isNegative ← sign
  let magnitude : Int := numberUpTo exponentLimit 10 (← digits Char.isDigit)
  return if isNegative then -magnitude else magnitude

/-- The digits behind the point of a floating-point number. -/
def fractionPart : Scanner (List Char) := do
  char '.'
  digits Char.isDigit

/-- A floating-point number in decimal, with a fraction, an exponent or both. -/
def decimalFloat : Scanner Value := do
  let isNegative ← sign
  let whole ← wholeDigits
  let fraction ← optional fractionPart
  let exponent ←
    match fraction with
    | none => exponentPart
    | some _ => pure ((← optional exponentPart).getD 0)
  let fraction := fraction.getD []
  let magnitude := nearestFloat (whole ++ fraction) (exponent - fraction.length)
  if isNegative then return .float (-magnitude)
  else if magnitude.isInf then failure
  else return .float magnitude

/-- An infinite number, or one that is none. -/
def specialFloat : Scanner Value := do
  let isNegative ← sign
  let magnitude : Float ←
    either (do word "inf"; return 1 / 0) (do word "nan"; return 0 / 0)
  return .float (if isNegative then -magnitude else magnitude)

/-! ## Dates and times -/

/-- A number of exactly `count` digits within limits. -/
def field (count low high : Nat) : Scanner Nat := fun text =>
  let digits := text.take count
  let number := numberOf 10 digits
  if digits.length = count ∧ digits.all Char.isDigit ∧ low ≤ number ∧ number ≤ high then
    some (number, text.drop count)
  else none

/-- How many days a month has. -/
def daysIn (year month : Nat) : Nat :=
  if month = 2 then
    if year % 4 = 0 ∧ (year % 100 ≠ 0 ∨ year % 400 = 0) then 29 else 28
  else if month = 4 ∨ month = 6 ∨ month = 9 ∨ month = 11 then 30
  else 31

/-- A date. -/
def date : Scanner Date := do
  let year ← field 4 0 9999
  char '-'
  let month ← field 2 1 12
  char '-'
  let day ← field 2 1 31
  if day ≤ daysIn year month then return { year, month, day } else failure

/-- The nanoseconds that the digits of a fraction of a second stand for. Further digits are
dropped. -/
def nanoseconds (digits : List Char) : Nat :=
  let kept := digits.take 9
  numberOf 10 kept * Nat.pow 10 (9 - kept.length)

/-- The fraction of a second. -/
def secondFraction : Scanner Nat := do
  char '.'
  let first ← satisfying Char.isDigit
  let rest ← run Char.isDigit
  return nanoseconds (first :: rest)

/-- A time of day. -/
def time : Scanner Time := do
  let hour ← field 2 0 23
  char ':'
  let minute ← field 2 0 59
  char ':'
  let second ← field 2 0 60
  let nanosecond := (← optional secondFraction).getD 0
  return { hour, minute, second, nanosecond }

/-- An offset from UTC in minutes. -/
def offset : Scanner Int := do
  let mark ← satisfying fun c => c == 'Z' || c == 'z' || c == '+' || c == '-'
  if mark = 'Z' ∨ mark = 'z' then return 0
  let hour ← field 2 0 23
  char ':'
  let minute ← field 2 0 59
  let magnitude : Int := (hour * 60 + minute : Nat)
  return if mark = '-' then -magnitude else magnitude

/-- A time of day behind a date, with an offset if there is one. -/
def timeOfDate : Scanner (Time × Option Int) := do
  let _ ← satisfying fun c => c == 'T' || c == 't' || c == ' '
  return (← time, ← optional offset)

/-- A date, a time of day, or both. -/
def dateTime : Scanner Value :=
  either
    (do
      let date ← date
      match ← optional timeOfDate with
      | some (time, offset) => return .dateTime ⟨some date, some time, offset⟩
      | none => return .dateTime ⟨some date, none, none⟩)
    (do return .dateTime ⟨none, some (← time), none⟩)

/-- A scalar that begins with a digit or a sign. -/
def number : Scanner Value :=
  either dateTime <| either decimalFloat <| either specialFloat integer

end Scanner
end Toml
end AccessorSynthesis
