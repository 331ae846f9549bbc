import AccessorSynthesis.ClassFile.Bytes
import AccessorSynthesis.Text.Utf16

/-!
# Modified UTF-8

The text encoding of class files. Each UTF-16 code unit is written for itself, in one to three
bytes; the unit zero takes two bytes, so that no zero byte occurs. A supplementary character thus
takes six bytes, three for each of its surrogates.

Reading is more liberal than writing: two and three byte forms are taken for units that have a
shorter one.
-/

namespace AccessorSynthesis
namespace ClassFile
namespace ModifiedUtf8

/-- The bytes of one code unit. -/
def encodeUnit (unit : UInt16) : Bytes :=
  let n := unit.toNat
  if n = 0 then [0xC0, 0x80]
  else if n < 0x80 then [UInt8.ofNat n]
  else if n < 0x800 then [UInt8.ofNat (0xC0 + n / 0x40), UInt8.ofNat (0x80 + n % 0x40)]
  else
    [UInt8.ofNat (0xE0 + n / 0x1000), UInt8.ofNat (0x80 + n / 0x40 % 0x40),
      UInt8.ofNat (0x80 + n % 0x40)]

/-- The bytes of a character. -/
def encodeChar (c : Char) : Bytes := (Utf16.units c).flatMap encodeUnit

/-- The bytes of a text. -/
def encode (text : String) : Bytes := text.toList.flatMap encodeChar

/-- Is the byte one that continues a code unit? -/
def isContinuation (byte : UInt8) : Bool := 0x80 ≤ byte.toNat && byte.toNat < 0xC0

/-- The code units of a byte string, put behind those in `found`, which holds the earlier ones in
reverse; nothing if a byte does not fit. -/
def unitsOnto (found : List UInt16) : Bytes → Option (List UInt16)
  | [] => some found.reverse
  | lead :: rest =>
      let n := lead.toNat
      if 0x01 ≤ n ∧ n < 0x80 then unitsOnto (UInt16.ofNat n :: found) rest
      else if 0xC0 ≤ n ∧ n < 0xE0 then
        match rest with
        | second :: rest =>
            if isContinuation second then
              unitsOnto (UInt16.ofNat (n % 0x20 * 0x40 + second.toNat % 0x40) :: found) rest
            else none
        | [] => none
      else if 0xE0 ≤ n ∧ n < 0xF0 then
        match rest with
        | second :: third :: rest =>
            if isContinuation second && isContinuation third then
              unitsOnto (UInt16.ofNat (n % 0x10 * 0x1000 + second.toNat % 0x40 * 0x40
                + third.toNat % 0x40) :: found) rest
            else none
        | _ => none
      else none

/-- The text that a byte string stands for, if it is well formed. -/
def decode (bytes : Bytes) : Option String := do
  let units ← unitsOnto [] bytes
  let chars ← Utf16.decode units
  return String.ofList chars

end ModifiedUtf8
end ClassFile
end AccessorSynthesis
