/-!
# UTF-16 code units

A character below U+10000 is one code unit; any other is a high surrogate followed by a low one.
This file defines the units of a character and the characters of a list of units, which exist
unless a surrogate stands alone.
-/

namespace AccessorSynthesis
namespace Utf16

/-- Is the unit the first half of a surrogate pair? -/
def isHighSurrogate (unit : UInt16) : Bool := 0xD800 ≤ unit.toNat && unit.toNat < 0xDC00

/-- Is the unit the second half of a surrogate pair? -/
def isLowSurrogate (unit : UInt16) : Bool := 0xDC00 ≤ unit.toNat && unit.toNat < 0xE000

/-- The code units of a character. -/
def units (c : Char) : List UInt16 :=
  if c.toNat < 0x10000 then [UInt16.ofNat c.toNat]
  else
    [UInt16.ofNat (0xD800 + (c.toNat - 0x10000) / 0x400),
      UInt16.ofNat (0xDC00 + (c.toNat - 0x10000) % 0x400)]

/-- The character that a surrogate pair stands for. -/
def pairChar (high low : UInt16) : Char :=
  Char.ofNat (0x10000 + (high.toNat - 0xD800) * 0x400 + (low.toNat - 0xDC00))

/-- The characters of a list of units, put behind those in `found`, which holds the earlier ones in
reverse; nothing if a surrogate stands alone. -/
def decodeOnto (found : List Char) : List UInt16 → Option (List Char)
  | [] => some found.reverse
  | unit :: rest =>
      if isHighSurrogate unit then
        match rest with
        | [] => none
        | low :: rest =>
            if isLowSurrogate low then decodeOnto (pairChar unit low :: found) rest else none
      else if isLowSurrogate unit then none
      else decodeOnto (Char.ofNat unit.toNat :: found) rest

/-- The characters of a list of units; nothing if a surrogate stands alone. -/
def decode (source : List UInt16) : Option (List Char) := decodeOnto [] source

end Utf16
end AccessorSynthesis
