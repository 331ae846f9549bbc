/-!
# Hexadecimal numerals

Lower-case base-sixteen numerals, padded with zeros to a least number of digits. Error texts use
them for the magic number of a class file and for instruction opcodes.
-/

namespace AccessorSynthesis

/-- The base-sixteen numeral of `n`, with zeros in front up to `width` digits. -/
def hexadecimal (width n : Nat) : String :=
  let digits := Nat.toDigits 16 n
  String.ofList (List.replicate (width - digits.length) '0' ++ digits)

end AccessorSynthesis
