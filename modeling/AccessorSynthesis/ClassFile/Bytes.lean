import AccessorSynthesis.ClassFile.Error

/-!
# Words as bytes

Class files store words with the high byte first. This file defines

* `Bytes.ofWord16`, `Bytes.ofWord32` — the two or four bytes of a word;
* `Decoder α` — reads an `α` from the front of a byte string and returns it with the bytes that
  follow, or says why it cannot;
* the decoders of words, of byte strings of known length and of repeated items.

Each word decoder undoes its encoder, whatever bytes follow.
-/

namespace AccessorSynthesis
namespace ClassFile

/-- A string of bytes. -/
abbrev Bytes := List UInt8

namespace Bytes

/-- The two bytes of a word, the high one first. -/
def ofWord16 (word : UInt16) : Bytes :=
  [UInt8.ofNat (word.toNat / 256), UInt8.ofNat word.toNat]

/-- The four bytes of a word, the high one first. -/
def ofWord32 (word : UInt32) : Bytes :=
  [UInt8.ofNat (word.toNat / 16777216), UInt8.ofNat (word.toNat / 65536),
    UInt8.ofNat (word.toNat / 256), UInt8.ofNat word.toNat]

@[simp] theorem length_ofWord16 (word : UInt16) : (ofWord16 word).length = 2 := rfl

@[simp] theorem length_ofWord32 (word : UInt32) : (ofWord32 word).length = 4 := rfl

end Bytes

/-- Reads a value from the front of a byte string and keeps the bytes that follow it. -/
abbrev Decoder (α : Type) := StateT Bytes (Except Error) α

namespace Decoder

variable {α : Type}

/-- Refuses the input. -/
def fail (error : Error) : Decoder α := fun _ => .error error

/-- Reads one byte. -/
def byte : Decoder UInt8
  | [] => .error .truncated
  | b :: rest => .ok (b, rest)

/-- Reads a word of two bytes. -/
def word16 : Decoder UInt16
  | high :: low :: rest => .ok (UInt16.ofNat (high.toNat * 256 + low.toNat), rest)
  | _ => .error .truncated

/-- Reads a word of four bytes. -/
def word32 : Decoder UInt32
  | a :: b :: c :: d :: rest =>
      .ok (UInt32.ofNat (((a.toNat * 256 + b.toNat) * 256 + c.toNat) * 256 + d.toNat), rest)
  | _ => .error .truncated

/-- Reads the next `count` bytes as they are. -/
def take (count : Nat) : Decoder Bytes := fun bytes =>
  let front := bytes.take count
  if front.length = count then .ok (front, bytes.drop count) else .error .truncated

/-- Passes over the next `count` bytes. -/
def skip (count : Nat) : Decoder Unit := do
  let _ ← take count

/-- Reads `count` items one after the other and puts them behind those in `found`, which holds the
earlier ones in reverse. -/
def timesOnto (item : Decoder α) : Nat → List α → Decoder (List α)
  | 0, found, bytes => .ok (found.reverse, bytes)
  | count + 1, found, bytes =>
      match item bytes with
      | .error error => .error error
      | .ok (a, rest) => timesOnto item count (a :: found) rest

/-- Reads `count` items one after the other. -/
def times (count : Nat) (item : Decoder α) : Decoder (List α) := timesOnto item count []

/-- Reads `count` items one after the other and keeps none of them. -/
def skipTimes (item : Decoder Unit) : Nat → Decoder Unit
  | 0, bytes => .ok ((), bytes)
  | count + 1, bytes =>
      match item bytes with
      | .error error => .error error
      | .ok (_, rest) => skipTimes item count rest

theorem byte_eq_ok {bytes rest : Bytes} {b : UInt8} :
    byte bytes = .ok (b, rest) ↔ bytes = b :: rest := by
  cases bytes <;> simp [byte]

theorem word16_ofWord16 (word : UInt16) (rest : Bytes) :
    word16 (Bytes.ofWord16 word ++ rest) = .ok (word, rest) := by
  have bound := word.toNat_lt
  have same : UInt16.ofNat (word.toNat / 256 % 256 * 256 + word.toNat % 256) = word := by
    rw [← UInt16.toNat_inj, UInt16.toNat_ofNat']
    omega
  simp [word16, Bytes.ofWord16, same]

theorem word16_eq_ok {bytes rest : Bytes} {word : UInt16} :
    word16 bytes = .ok (word, rest) ↔ bytes = Bytes.ofWord16 word ++ rest := by
  constructor
  · intro h
    match bytes with
    | [] | [_] => cases h
    | high :: low :: tail =>
        cases h
        have highBound := high.toNat_lt
        have lowBound := low.toNat_lt
        have highSame : UInt8.ofNat ((high.toNat * 256 + low.toNat) % 65536 / 256) = high := by
          rw [← UInt8.toNat_inj, UInt8.toNat_ofNat']
          omega
        have lowSame : UInt8.ofNat ((high.toNat * 256 + low.toNat) % 65536) = low := by
          rw [← UInt8.toNat_inj, UInt8.toNat_ofNat']
          omega
        simp only [Bytes.ofWord16, UInt16.toNat_ofNat', highSame, lowSame]
        rfl
  · rintro rfl
    exact word16_ofWord16 word rest

theorem word32_ofWord32 (word : UInt32) (rest : Bytes) :
    word32 (Bytes.ofWord32 word ++ rest) = .ok (word, rest) := by
  have bound := word.toNat_lt
  have same : UInt32.ofNat (((word.toNat / 16777216 % 256 * 256 + word.toNat / 65536 % 256) * 256
      + word.toNat / 256 % 256) * 256 + word.toNat % 256) = word := by
    rw [← UInt32.toNat_inj, UInt32.toNat_ofNat']
    omega
  simp [word32, Bytes.ofWord32, same]

theorem take_append (front rest : Bytes) : take front.length (front ++ rest) = .ok (front, rest) := by
  simp [take]

end Decoder

end ClassFile
end AccessorSynthesis
