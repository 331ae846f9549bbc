import Mathlib.Algebra.Ring.Nat
import AccessorSynthesis.ClassFile.ModifiedUtf8

/-!
# ModifiedUtf8 — reading back what was written

Every text survives modified UTF-8 (`decode_encode`), and it is written character by character, in
bytes that class files may hold (`lossless`).  The argument for reading back follows the two layers
of the encoding:

* characters and code units: `Utf16.decodeOnto_units`, and back `Utf16.flatMap_units_of_decodeOnto`;
* code units and bytes: `unitsOnto_encodeUnit`.

Both readers keep what they found in reverse, so each layer is a statement about one more item in
front of the list of found ones.
-/

namespace AccessorSynthesis

namespace Utf16

theorem toNat_valid (c : Char) : c.toNat < 0xD800 ∨ 0xDFFF < c.toNat ∧ c.toNat < 0x110000 :=
  c.valid

theorem decodeOnto_units (c : Char) (found : List Char) (rest : List UInt16) :
    decodeOnto found (units c ++ rest) = decodeOnto (c :: found) rest := by
  have hvalid := toNat_valid c
  by_cases hsmall : c.toNat < 0x10000
  · -- One unit, which is no surrogate since the character is none.
    have hunit : (UInt16.ofNat c.toNat).toNat = c.toNat := by
      rw [UInt16.toNat_ofNat']
      omega
    have hhigh : isHighSurrogate (UInt16.ofNat c.toNat) = false := by
      simp only [isHighSurrogate, hunit, Bool.and_eq_false_iff, decide_eq_false_iff_not]
      omega
    have hlow : isLowSurrogate (UInt16.ofNat c.toNat) = false := by
      simp only [isLowSurrogate, hunit, Bool.and_eq_false_iff, decide_eq_false_iff_not]
      omega
    rw [units, if_pos hsmall, List.cons_append, List.nil_append, decodeOnto.eq_def]
    simp [hhigh, hlow, hunit]
  · -- Two units: the bits above the lower ten and the lower ten, moved into their ranges.
    have hhighNat : (UInt16.ofNat (0xD800 + (c.toNat - 0x10000) / 0x400)).toNat
        = 0xD800 + (c.toNat - 0x10000) / 0x400 := by
      rw [UInt16.toNat_ofNat']
      omega
    have hlowNat : (UInt16.ofNat (0xDC00 + (c.toNat - 0x10000) % 0x400)).toNat
        = 0xDC00 + (c.toNat - 0x10000) % 0x400 := by
      rw [UInt16.toNat_ofNat']
      omega
    have hhigh : isHighSurrogate (UInt16.ofNat (0xD800 + (c.toNat - 0x10000) / 0x400)) = true := by
      simp only [isHighSurrogate, hhighNat, Bool.and_eq_true, decide_eq_true_eq]
      omega
    have hlow : isLowSurrogate (UInt16.ofNat (0xDC00 + (c.toNat - 0x10000) % 0x400)) = true := by
      simp only [isLowSurrogate, hlowNat, Bool.and_eq_true, decide_eq_true_eq]
      omega
    have hpair : pairChar (UInt16.ofNat (0xD800 + (c.toNat - 0x10000) / 0x400))
        (UInt16.ofNat (0xDC00 + (c.toNat - 0x10000) % 0x400)) = c := by
      have hnat : 0x10000 + (0xD800 + (c.toNat - 0x10000) / 0x400 - 0xD800) * 0x400
          + (0xDC00 + (c.toNat - 0x10000) % 0x400 - 0xDC00) = c.toNat := by
        omega
      rw [pairChar, hhighNat, hlowNat, hnat]
      exact Char.ofNat_toNat c
    rw [units, if_neg hsmall, List.cons_append, List.cons_append, List.nil_append,
      decodeOnto.eq_def]
    simp only [hhigh, hlow, if_true, hpair]

theorem decodeOnto_flatMap_units (chars found : List Char) :
    decodeOnto found (chars.flatMap units) = some (found.reverse ++ chars) := by
  induction chars generalizing found with
  | nil =>
      simp [decodeOnto]
  | cons c chars ih =>
      calc
        decodeOnto found ((c :: chars).flatMap units)
            = decodeOnto (c :: found) (chars.flatMap units) := by
              rw [List.flatMap_cons, decodeOnto_units]
        _ = some ((c :: found).reverse ++ chars) := ih (c :: found)
        _ = some (found.reverse ++ c :: chars) := by
              simp

theorem toNat_ofNat_of_valid {n : Nat} (h : n.isValidChar) : (Char.ofNat n).toNat = n := by
  rw [Char.ofNat, dif_pos h]
  rfl

theorem units_ofNat {unit : UInt16} (hhigh : ¬isHighSurrogate unit = true)
    (hlow : ¬isLowSurrogate unit = true) : units (Char.ofNat unit.toNat) = [unit] := by
  have hbound := unit.toNat_lt
  have hvalid : unit.toNat.isValidChar := by
    simp only [isHighSurrogate, isLowSurrogate, Bool.and_eq_true, decide_eq_true_eq] at hhigh hlow
    unfold Nat.isValidChar
    omega
  rw [units, toNat_ofNat_of_valid hvalid, if_pos hbound, UInt16.ofNat_toNat]

theorem units_pairChar {high low : UInt16} (hhigh : isHighSurrogate high = true)
    (hlow : isLowSurrogate low = true) : units (pairChar high low) = [high, low] := by
  simp only [isHighSurrogate, isLowSurrogate, Bool.and_eq_true, decide_eq_true_eq] at hhigh hlow
  have hvalid : (0x10000 + (high.toNat - 0xD800) * 0x400 + (low.toNat - 0xDC00)).isValidChar := by
    unfold Nat.isValidChar
    omega
  have hupper : 0xD800 + (0x10000 + (high.toNat - 0xD800) * 0x400 + (low.toNat - 0xDC00) - 0x10000)
      / 0x400 = high.toNat := by
    omega
  have hlower : 0xDC00 + (0x10000 + (high.toNat - 0xD800) * 0x400 + (low.toNat - 0xDC00) - 0x10000)
      % 0x400 = low.toNat := by
    omega
  rw [units, pairChar, toNat_ofNat_of_valid hvalid, if_neg (by omega), hupper, hlower,
    UInt16.ofNat_toNat, UInt16.ofNat_toNat]

/-- Units that are read as characters are the units of these characters. -/
theorem flatMap_units_of_decodeOnto {found chars : List Char} {source : List UInt16}
    (h : decodeOnto found source = some chars) :
    chars.flatMap units = found.reverse.flatMap units ++ source := by
  fun_induction decodeOnto found source with
  | case1 found =>
      cases h
      rw [List.append_nil]
  | case2 found high hhigh =>
      cases h
  | case3 found high hhigh low rest hlow ih =>
      rw [ih h, List.reverse_cons, List.flatMap_append, List.flatMap_singleton,
        units_pairChar hhigh hlow, List.append_assoc]
      rfl
  | case4 found high hhigh low rest hlow =>
      cases h
  | case5 found unit rest hhigh hlow =>
      cases h
  | case6 found unit rest hhigh hlow ih =>
      rw [ih h, List.reverse_cons, List.flatMap_append, List.flatMap_singleton,
        units_ofNat hhigh hlow, List.append_assoc]
      rfl

end Utf16

namespace ClassFile
namespace ModifiedUtf8

/-! ## The three forms of a code unit -/

theorem toNat_continuation {low : Nat} (h : low < 0x40) :
    (UInt8.ofNat (0x80 + low)).toNat = 0x80 + low := by
  rw [UInt8.toNat_ofNat']
  omega

theorem isContinuation_ofNat {low : Nat} (h : low < 0x40) :
    isContinuation (UInt8.ofNat (0x80 + low)) = true := by
  simp only [isContinuation, toNat_continuation h, Bool.and_eq_true, decide_eq_true_eq]
  omega

theorem unitsOnto_one {n : Nat} (h : 0 < n ∧ n < 0x80) (found : List UInt16) (rest : Bytes) :
    unitsOnto found (UInt8.ofNat n :: rest) = unitsOnto (UInt16.ofNat n :: found) rest := by
  have hlead : (UInt8.ofNat n).toNat = n := by
    rw [UInt8.toNat_ofNat']
    omega
  have hrange : 0x01 ≤ n ∧ n < 0x80 := by omega
  rw [unitsOnto.eq_def]
  simp only [hlead, if_pos hrange]

theorem unitsOnto_two {high low : Nat} (hhigh : high < 0x20) (hlow : low < 0x40)
    (found : List UInt16) (rest : Bytes) :
    unitsOnto found (UInt8.ofNat (0xC0 + high) :: UInt8.ofNat (0x80 + low) :: rest)
      = unitsOnto (UInt16.ofNat (high * 0x40 + low) :: found) rest := by
  have hlead : (UInt8.ofNat (0xC0 + high)).toNat = 0xC0 + high := by
    rw [UInt8.toNat_ofNat']
    omega
  have hsame : (0xC0 + high) % 0x20 * 0x40 + (0x80 + low) % 0x40 = high * 0x40 + low := by omega
  have hone : ¬(0x01 ≤ 0xC0 + high ∧ 0xC0 + high < 0x80) := by omega
  have htwo : 0xC0 ≤ 0xC0 + high ∧ 0xC0 + high < 0xE0 := by omega
  rw [unitsOnto.eq_def]
  simp only [hlead, if_neg hone, if_pos htwo, isContinuation_ofNat hlow, if_true,
    toNat_continuation hlow, hsame]

theorem unitsOnto_three {high middle low : Nat} (hhigh : high < 0x10) (hmiddle : middle < 0x40)
    (hlow : low < 0x40) (found : List UInt16) (rest : Bytes) :
    unitsOnto found (UInt8.ofNat (0xE0 + high) :: UInt8.ofNat (0x80 + middle)
        :: UInt8.ofNat (0x80 + low) :: rest)
      = unitsOnto (UInt16.ofNat (high * 0x1000 + middle * 0x40 + low) :: found) rest := by
  have hlead : (UInt8.ofNat (0xE0 + high)).toNat = 0xE0 + high := by
    rw [UInt8.toNat_ofNat']
    omega
  have hsame : (0xE0 + high) % 0x10 * 0x1000 + (0x80 + middle) % 0x40 * 0x40 + (0x80 + low) % 0x40
      = high * 0x1000 + middle * 0x40 + low := by
    omega
  have hone : ¬(0x01 ≤ 0xE0 + high ∧ 0xE0 + high < 0x80) := by omega
  have htwo : ¬(0xC0 ≤ 0xE0 + high ∧ 0xE0 + high < 0xE0) := by omega
  have hthree : 0xE0 ≤ 0xE0 + high ∧ 0xE0 + high < 0xF0 := by omega
  rw [unitsOnto.eq_def]
  simp only [hlead, if_neg hone, if_neg htwo, if_pos hthree, isContinuation_ofNat hmiddle,
    isContinuation_ofNat hlow, Bool.and_self, if_true, toNat_continuation hmiddle,
    toNat_continuation hlow, hsame]

/-! ## Reading back -/

theorem unitsOnto_encodeUnit (unit : UInt16) (found : List UInt16) (rest : Bytes) :
    unitsOnto found (encodeUnit unit ++ rest) = unitsOnto (unit :: found) rest := by
  -- Zero takes the form of two bytes, which is what is modified about this encoding.
  have hbound := unit.toNat_lt
  have hself : UInt16.ofNat unit.toNat = unit := UInt16.ofNat_toNat
  by_cases hzero : unit.toNat = 0
  · have hunit : unit = 0 := UInt16.toNat_inj.1 hzero
    subst hunit
    exact unitsOnto_two (show 0 < 0x20 by omega) (show 0 < 0x40 by omega) found rest
  by_cases hone : unit.toNat < 0x80
  · simp only [encodeUnit, if_neg hzero, if_pos hone, List.cons_append, List.nil_append]
    rw [unitsOnto_one (by omega), hself]
  by_cases htwo : unit.toNat < 0x800
  · have hsum : unit.toNat / 0x40 * 0x40 + unit.toNat % 0x40 = unit.toNat := by omega
    simp only [encodeUnit, if_neg hzero, if_neg hone, if_pos htwo, List.cons_append,
      List.nil_append]
    rw [unitsOnto_two (by omega) (by omega), hsum, hself]
  · have hsum : unit.toNat / 0x1000 * 0x1000 + unit.toNat / 0x40 % 0x40 * 0x40
        + unit.toNat % 0x40 = unit.toNat := by
      omega
    simp only [encodeUnit, if_neg hzero, if_neg hone, if_neg htwo, List.cons_append,
      List.nil_append]
    rw [unitsOnto_three (by omega) (by omega) (by omega), hsum, hself]

theorem unitsOnto_flatMap_encodeUnit (units found : List UInt16) :
    unitsOnto found (units.flatMap encodeUnit) = some (found.reverse ++ units) := by
  induction units generalizing found with
  | nil =>
      simp [unitsOnto]
  | cons unit units ih =>
      calc
        unitsOnto found ((unit :: units).flatMap encodeUnit)
            = unitsOnto (unit :: found) (units.flatMap encodeUnit) := by
              rw [List.flatMap_cons, unitsOnto_encodeUnit]
        _ = some ((unit :: found).reverse ++ units) := ih (unit :: found)
        _ = some (found.reverse ++ unit :: units) := by
              simp

theorem encode_eq_flatMap (text : String) :
    encode text = (text.toList.flatMap Utf16.units).flatMap encodeUnit := by
  rw [List.flatMap_assoc]
  rfl

/-- Every text is read back from its bytes. -/
theorem decode_encode (text : String) : decode (encode text) = some text := by
  have hunits : unitsOnto [] (encode text) = some (text.toList.flatMap Utf16.units) := by
    rw [encode_eq_flatMap, unitsOnto_flatMap_encodeUnit]
    rfl
  have hchars : Utf16.decode (text.toList.flatMap Utf16.units) = some text.toList :=
    Utf16.decodeOnto_flatMap_units text.toList []
  simp [decode, hunits, hchars]

/-! ## Written bytes -/

theorem encodeUnit_ofNat {n : Nat} (h : n < 0x10000) : encodeUnit (UInt16.ofNat n)
    = if n = 0 then [0xC0, 0x80]
      else if n < 0x80 then [UInt8.ofNat n]
      else if n < 0x800 then [UInt8.ofNat (0xC0 + n / 0x40), UInt8.ofNat (0x80 + n % 0x40)]
      else [UInt8.ofNat (0xE0 + n / 0x1000), UInt8.ofNat (0x80 + n / 0x40 % 0x40),
        UInt8.ofNat (0x80 + n % 0x40)] := by
  simp only [encodeUnit, UInt16.toNat_ofNat', Nat.mod_eq_of_lt h]

/-- How many bytes a unit takes: one for those below 0x80 but zero, two below 0x800, else three. -/
theorem length_encodeUnit_ofNat {n : Nat} (h : n < 0x10000) :
    (encodeUnit (UInt16.ofNat n)).length
      = if n = 0 then 2 else if n < 0x80 then 1 else if n < 0x800 then 2 else 3 := by
  rw [encodeUnit_ofNat h]
  simp only [apply_ite List.length, List.length_cons, List.length_nil]

/-- How many bytes a character takes. -/
def width (c : Char) : Nat :=
  if 0x01 ≤ c.toNat ∧ c.toNat ≤ 0x7F then 1
  else if c.toNat ≤ 0x7FF then 2
  else if c.toNat < 0x10000 then 3
  else 6

theorem length_encodeChar (c : Char) : (encodeChar c).length = width c := by
  have hvalid := Utf16.toNat_valid c
  unfold encodeChar Utf16.units width
  split
  · rw [List.flatMap_singleton, length_encodeUnit_ofNat (by omega)]
    grind
  · -- Each half of a surrogate pair takes three bytes.
    simp only [List.flatMap_cons, List.flatMap_nil, List.length_append, List.length_nil]
    rw [length_encodeUnit_ofNat (by omega), length_encodeUnit_ofNat (by omega)]
    grind

theorem length_encode (text : String) : (encode text).length = (text.toList.map width).sum := by
  simp [encode, List.length_flatMap, length_encodeChar]

theorem bounds_of_mem_encodeUnit {unit : UInt16} {byte : UInt8} (h : byte ∈ encodeUnit unit) :
    0x00 < byte ∧ byte < 0xF0 := by
  have hbound := unit.toNat_lt
  simp only [encodeUnit] at h
  rw [UInt8.lt_iff_toNat_lt, UInt8.lt_iff_toNat_lt]
  split at h
  · simp only [List.mem_cons, List.not_mem_nil, or_false] at h
    rcases h with rfl | rfl <;> decide
  split at h
  · rw [List.mem_singleton.1 h]
    simp
    omega
  split at h
  · simp only [List.mem_cons, List.not_mem_nil, or_false] at h
    rcases h with rfl | rfl <;> simp <;> omega
  · simp only [List.mem_cons, List.not_mem_nil, or_false] at h
    rcases h with rfl | rfl | rfl <;> simp <;> omega

theorem bounds_of_mem_encode {text : String} {byte : UInt8} (h : byte ∈ encode text) :
    0x00 < byte ∧ byte < 0xF0 := by
  rw [encode_eq_flatMap, List.mem_flatMap] at h
  rcases h with ⟨unit, _, hbyte⟩
  exact bounds_of_mem_encodeUnit hbyte

theorem encode_append (text other : String) :
    encode (text ++ other) = encode text ++ encode other := by
  simp [encode]

/-- Nothing is lost in writing: a text is read back from its bytes, and these are those of its
characters one after the other, without the bytes that are kept out of class files. -/
theorem lossless (text : String) :
    decode (encode text) = some text ∧
    (∀ byte ∈ encode text, 0x00 < byte ∧ byte < 0xF0) ∧
    (∀ other : String, encode (text ++ other) = encode text ++ encode other) ∧
    (encode text).length = (text.toList.map width).sum :=
  ⟨decode_encode text, fun _ hbyte => bounds_of_mem_encode hbyte, encode_append text,
    length_encode text⟩

end ModifiedUtf8
end ClassFile
end AccessorSynthesis
