/-!
# Shortest decimals

The decimal numeral with the fewest digits that reads back as a given binary floating-point number.
This file defines

* `Binary` — a number `mantissa * 2 ^ exponent` with the interval of numbers that round to it;
* `Decimal` — a number `digits * 10 ^ exponent`;
* `Binary.shortest` — the shortest decimal in that interval;
* `Decimal.positional` — a decimal written without an exponent.

For one digit, two digits and so on, the two neighbours of the number on the grid of decimals with
that many digits are tried. The first grid with a neighbour inside the interval wins; of two such
neighbours the nearer one, and of two equally near ones the upper.
-/

namespace AccessorSynthesis

/-- The number `digits * 10 ^ exponent`. -/
structure Decimal where
  digits : Nat
  exponent : Int
deriving DecidableEq

/-- A positive number `mantissa * 2 ^ exponent`, as a floating-point format holds it. -/
structure Binary where
  mantissa : Nat
  exponent : Int
  /-- Is the next smaller number only half as far away as the next larger one? -/
  isLowest : Bool
deriving DecidableEq

namespace Binary

/-- The quarter of the last place is the unit in which a number and the ends of its interval are
whole numbers. This is that unit's numerator. -/
def unitNumerator (binary : Binary) : Nat := 1 <<< (binary.exponent - 2).toNat

/-- The denominator of that unit. -/
def unitDenominator (binary : Binary) : Nat := 1 <<< (2 - binary.exponent).toNat

/-- The lower end of the interval, in units. -/
def low (binary : Binary) : Nat := 4 * binary.mantissa - if binary.isLowest then 1 else 2

/-- The upper end of the interval, in units. -/
def high (binary : Binary) : Nat := 4 * binary.mantissa + 2

/-- How many digits the whole part has; for a number below one, minus the number of zeros that
follow the point. -/
def magnitude (binary : Binary) : Int :=
  let numerator := 4 * binary.mantissa * binary.unitNumerator
  let whole := numerator / binary.unitDenominator
  if 0 < whole then (Nat.toDigits 10 whole).length
  else
    let inverse := (binary.unitDenominator + numerator - 1) / numerator
    1 - ((Nat.toDigits 10 (inverse - 1)).length : Int)

/-- The nearer of the two neighbours on the grid of decimals with a given exponent that lie inside
the interval, if one does. The ends belong to the interval if the mantissa is even. -/
def onGrid? (binary : Binary) (exponent : Int) : Option Decimal :=
  let scale := binary.unitNumerator * Nat.pow 10 (-exponent).toNat
  let step := binary.unitDenominator * Nat.pow 10 exponent.toNat
  let value := 4 * binary.mantissa * scale
  let below := value / step
  let isEven := binary.mantissa % 2 = 0
  let belowFits := binary.low * scale < below * step ∨ (isEven ∧ binary.low * scale = below * step)
  let above := below + 1
  let aboveFits := above * step < binary.high * scale ∨ (isEven ∧ above * step = binary.high * scale)
  if belowFits ∧ (¬ aboveFits ∨ value - below * step < above * step - value) then
    some ⟨below, exponent⟩
  else if aboveFits then some ⟨above, exponent⟩
  else none

/-- The shortest decimal in the interval. With seventeen digits there always is one. -/
def shortest (binary : Binary) : Decimal :=
  let grids := (List.range 17).map fun (count : Nat) => binary.magnitude - 1 - (count : Int)
  (grids.findSome? binary.onGrid?).getD ⟨0, 0⟩

end Binary

namespace Decimal

/-- The decimal written without an exponent, and without a point if it is a whole number. -/
def positional (decimal : Decimal) : String :=
  let digits := Nat.toDigits 10 decimal.digits
  if 0 ≤ decimal.exponent then
    String.ofList (digits ++ List.replicate decimal.exponent.toNat '0')
  else
    let places := (-decimal.exponent).toNat
    let padded := List.replicate (places + 1 - digits.length) '0' ++ digits
    let whole := padded.take (padded.length - places)
    let fraction := padded.drop (padded.length - places)
    let kept := (fraction.reverse.dropWhile (· == '0')).reverse
    if kept.isEmpty then String.ofList whole else String.ofList (whole ++ '.' :: kept)

end Decimal

/-- The parts of a positive finite floating-point number. -/
def Binary.ofFloat (x : Float) : Binary :=
  let bits := x.toBits.toNat
  let fraction := bits % (1 <<< 52)
  let biased := (bits >>> 52) % (1 <<< 11)
  if biased = 0 then ⟨fraction, -1074, false⟩
  else ⟨(1 <<< 52) + fraction, Int.ofNat biased - 1075, fraction = 0 && 1 < biased⟩

/-- A floating-point number in decimal, without an exponent and always with a point, unless it is
infinite or not a number. -/
def floatText (x : Float) : String :=
  if x.isNaN then "NaN"
  else
    let magnitude :=
      if x.isInf then "inf"
      else
        let text := if x == 0 then "0" else (Binary.ofFloat x).shortest.positional
        if text.contains '.' then text else text ++ ".0"
    if x.toBits.toNat.testBit 63 then "-" ++ magnitude else magnitude

end AccessorSynthesis
