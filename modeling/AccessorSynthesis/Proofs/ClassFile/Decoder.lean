import Mathlib.Data.List.Forall2
import AccessorSynthesis.ClassFile.Method
import AccessorSynthesis.Proofs.ClassFile.InstructionStream

/-!
# Decoder — the bytes that stand for a value

A decoder that undoes an encoder takes the encoded bytes from the front of its input and leaves
whatever follows them.  This file defines

* `Decoder.Reads d bytes a` — “`d` reads `bytes` as `a`, in front of any further bytes”;
* the rules by which such facts are put together along `do` blocks and repetitions;
* the instances for words, bytes of known length, instructions and method bodies.

The rules mention no format, so a change of a stored form touches only its own instance.
-/

namespace AccessorSynthesis
namespace ClassFile

namespace Decoder

variable {α β : Type}

/-- The decoder reads the bytes as the value and leaves what follows them. -/
def Reads (decoder : Decoder α) (bytes : Bytes) (value : α) : Prop :=
  ∀ rest : Bytes, decoder (bytes ++ rest) = .ok (value, rest)

namespace Reads

theorem pure (value : α) : Reads (Pure.pure value : Decoder α) [] value := by
  intro rest
  rfl

/-- The rest of a `do` block goes on with what the first decoder has left. -/
theorem bind_apply {decoder : Decoder α} {front : Bytes} {a : α} (h : Reads decoder front a)
    (next : α → Decoder β) (rest : Bytes) : (decoder >>= next) (front ++ rest) = next a rest := by
  show ((decoder (front ++ rest)).bind fun read => next read.1 read.2) = next a rest
  rw [h rest]
  rfl

theorem bind {decoder : Decoder α} {next : α → Decoder β} {front back : Bytes} {a : α} {b : β}
    (h : Reads decoder front a) (hnext : Reads (next a) back b) :
    Reads (decoder >>= next) (front ++ back) b := by
  intro rest
  calc
    (decoder >>= next) (front ++ back ++ rest) = next a (back ++ rest) := by
          rw [List.append_assoc, h.bind_apply]
    _ = .ok (b, rest) := hnext rest

/-- The bytes of a repetition are those of its items, one after the other. -/
theorem timesOnto {item : Decoder α} {parts : List Bytes} {values : List α}
    (h : List.Forall₂ (Reads item) parts values) (found : List α) :
    Reads (Decoder.timesOnto item values.length found) parts.flatten (found.reverse ++ values) := by
  induction h generalizing found with
  | nil =>
      intro rest
      simp [Decoder.timesOnto]
  | @cons part a parts values hpart _ ih =>
      intro rest
      have hitem : item (part ++ (parts.flatten ++ rest)) = .ok (a, parts.flatten ++ rest) :=
        hpart (parts.flatten ++ rest)
      have hrest := ih (a :: found) rest
      simpa [Decoder.timesOnto, hitem] using hrest

theorem times {item : Decoder α} {parts : List Bytes} {values : List α}
    (h : List.Forall₂ (Reads item) parts values) :
    Reads (Decoder.times values.length item) parts.flatten values :=
  timesOnto h []

end Reads

/-! ## Words and bytes of known length -/

theorem reads_byte (b : UInt8) : Reads byte [b] b := by
  intro rest
  rfl

theorem reads_word16 (word : UInt16) : Reads word16 (Bytes.ofWord16 word) word :=
  word16_ofWord16 word

theorem reads_word32 (word : UInt32) : Reads word32 (Bytes.ofWord32 word) word :=
  word32_ofWord32 word

theorem reads_take {count : Nat} {bytes : Bytes} (h : bytes.length = count) :
    Reads (take count) bytes bytes := by
  intro rest
  subst h
  exact take_append bytes rest

theorem reads_skip {count : Nat} {bytes : Bytes} (h : bytes.length = count) :
    Reads (skip count) bytes () := by
  have hskip : Reads (skip count) (bytes ++ []) () := (reads_take h).bind (Reads.pure ())
  simpa using hskip

end Decoder

/-! ## Method bodies -/

open Decoder

theorem reads_skipAttributes : Reads skipAttributes (Bytes.ofWord16 0) () := by
  intro rest
  rfl

namespace MethodBody

theorem length_flatMap_encode (body : MethodBody) :
    (body.instructions.flatMap Instruction.encode).length = body.size := by
  rw [Instruction.length_flatMap_encode, size, List.sum, List.foldr_map]

/-- The stack and locals, the length field and the two empty tables take twelve bytes. -/
theorem length_encode (body : MethodBody) : body.encode.length = body.size + 12 := by
  simp only [encode, List.length_append, Bytes.length_ofWord16, Bytes.length_ofWord32,
    length_flatMap_encode]
  omega

/-- The sizes that a body may have. -/
def IsSize (size : Nat) : Prop := 0 < size ∧ size ≤ 65535

instance (size : Nat) : Decidable (IsSize size) :=
  inferInstanceAs (Decidable (0 < size ∧ size ≤ 65535))

theorem checkSize_eq_ok_iff {size : Nat} : checkSize size = .ok () ↔ IsSize size := by
  unfold checkSize IsSize
  split <;> simp <;> omega

theorem checkSize_eq_error {size : Nat} (h : ¬IsSize size) :
    checkSize size = .error (.badCodeLength size) := by
  have hrange : size = 0 ∨ 65535 < size := by
    unfold IsSize at h
    omega
  exact if_pos hrange

theorem reads_decode {body : MethodBody} (h : IsSize body.size) :
    Reads MethodBody.decode body.encode body := by
  have hlength : (UInt32.ofNat body.size).toNat = body.size := by
    rw [UInt32.toNat_ofNat']
    have := h.2
    omega
  have hcode : Reads (take (UInt32.ofNat body.size).toNat)
      (body.instructions.flatMap Instruction.encode)
      (body.instructions.flatMap Instruction.encode) :=
    reads_take (by rw [hlength, length_flatMap_encode])
  -- No handlers and no attributes follow the instructions.
  have htail : Reads (do
        let handlers ← word16
        skip (8 * handlers.toNat)
        skipAttributes
        return ({ maxStack := body.maxStack, maxLocals := body.maxLocals,
                  instructions := body.instructions } : MethodBody))
      (Bytes.ofWord16 0 ++ ([] ++ (Bytes.ofWord16 0 ++ []))) body := by
    refine (reads_word16 0).bind ?_
    refine (reads_skip (show ([] : Bytes).length = 0 from rfl)).bind ?_
    exact reads_skipAttributes.bind (Reads.pure body)
  have hbody : Reads MethodBody.decode
      (Bytes.ofWord16 body.maxStack ++ (Bytes.ofWord16 body.maxLocals
        ++ (Bytes.ofWord32 (UInt32.ofNat body.size)
        ++ (body.instructions.flatMap Instruction.encode
        ++ (Bytes.ofWord16 0 ++ ([] ++ (Bytes.ofWord16 0 ++ []))))))) body := by
    refine (reads_word16 _).bind ?_
    refine (reads_word16 _).bind ?_
    refine (reads_word32 _).bind ?_
    rw [hlength, checkSize_eq_ok_iff.2 h, ← hlength]
    refine hcode.bind ?_
    rw [Instruction.scan_encode]
    exact htail
  simpa [encode, List.append_assoc] using hbody

end MethodBody

end ClassFile
end AccessorSynthesis
