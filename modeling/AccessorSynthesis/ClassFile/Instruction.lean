import AccessorSynthesis.ClassFile.Bytes

/-!
# Instructions

The instructions that accessors and default constructors are made of. An instruction is one opcode
byte and an operand of no, one or two bytes, the index of a pool entry. This file defines

* `Instruction.size`, `Instruction.encode`, `Instruction.decode` — the stored form;
* `Instruction.scan` — a whole byte string read as instructions, up to the first that is not one;
* `Instruction.loading` — the shortest instruction that loads a pool entry.

`decode_eq_ok` says that decoding succeeds exactly on an encoded instruction with anything behind it.
-/

namespace AccessorSynthesis
namespace ClassFile

/-- An instruction of a method body. Operands are indices of pool entries. -/
inductive Instruction where
  | loadThis
  | loadConstant (index : UInt8)
  | loadConstantWide (index : UInt16)
  | invokeSpecial (index : UInt16)
  | returnReference
  | returnVoid
deriving DecidableEq

namespace Instruction

/-- The shortest instruction that loads the pool entry at `index`. -/
def loading (index : UInt16) : Instruction :=
  if index.toNat < 256 then .loadConstant (UInt8.ofNat index.toNat) else .loadConstantWide index

/-- The byte that starts the instruction. -/
def opcode : Instruction → UInt8
  | .loadThis => 0x2a
  | .loadConstant _ => 0x12
  | .loadConstantWide _ => 0x13
  | .invokeSpecial _ => 0xb7
  | .returnReference => 0xb0
  | .returnVoid => 0xb1

/-- How many bytes the instruction takes. -/
def size : Instruction → Nat
  | .loadThis | .returnReference | .returnVoid => 1
  | .loadConstant _ => 2
  | .loadConstantWide _ | .invokeSpecial _ => 3

/-- The pool entry that the instruction names, if it names one. -/
def constant? : Instruction → Option UInt16
  | .loadConstant index => some index.toUInt16
  | .loadConstantWide index | .invokeSpecial index => some index
  | .loadThis | .returnReference | .returnVoid => none

/-- The opcode and the operand. -/
def encode (instruction : Instruction) : Bytes :=
  instruction.opcode ::
    match instruction with
    | .loadConstant index => [index]
    | .loadConstantWide index | .invokeSpecial index => Bytes.ofWord16 index
    | .loadThis | .returnReference | .returnVoid => []

/-- Reads one instruction. -/
def decode : Decoder Instruction
  | [] => .error .truncated
  | opcode :: operand =>
      if opcode = 0x2a then .ok (.loadThis, operand)
      else if opcode = 0x12 then (Decoder.byte operand).map (Prod.map .loadConstant id)
      else if opcode = 0x13 then (Decoder.word16 operand).map (Prod.map .loadConstantWide id)
      else if opcode = 0xb7 then (Decoder.word16 operand).map (Prod.map .invokeSpecial id)
      else if opcode = 0xb0 then .ok (.returnReference, operand)
      else if opcode = 0xb1 then .ok (.returnVoid, operand)
      else .error (.unsupportedOpcode opcode)

/-- How an instruction is written in a listing. -/
def mnemonic : Instruction → String
  | .loadThis => "aload_0"
  | .loadConstant index => s!"ldc #{index.toNat}"
  | .loadConstantWide index => s!"ldc_w #{index.toNat}"
  | .invokeSpecial index => s!"invokespecial #{index.toNat}"
  | .returnReference => "areturn"
  | .returnVoid => "return"

theorem length_encode (instruction : Instruction) :
    instruction.encode.length = instruction.size := by
  cases instruction <;> rfl

theorem decode_encode (instruction : Instruction) (rest : Bytes) :
    decode (instruction.encode ++ rest) = .ok (instruction, rest) := by
  cases instruction with
  | loadThis | loadConstant | returnReference | returnVoid => rfl
  | loadConstantWide index | invokeSpecial index =>
      simp [encode, opcode, decode, Decoder.word16_ofWord16, Except.map]

/-- Only encoded instructions are read. -/
theorem decode_eq_ok {bytes rest : Bytes} {instruction : Instruction} :
    decode bytes = .ok (instruction, rest) ↔ bytes = instruction.encode ++ rest := by
  constructor
  · intro h
    cases bytes with
    | nil => cases h
    | cons opcode operand =>
        simp only [decode] at h
        split at h
        · cases h; simp_all [encode, Instruction.opcode]
        split at h
        · cases read : Decoder.byte operand with
          | error => rw [read] at h; cases h
          | ok result =>
              rw [read] at h
              cases h
              simp_all [encode, Instruction.opcode, Decoder.byte_eq_ok.1 read]
        split at h
        · cases read : Decoder.word16 operand with
          | error => rw [read] at h; cases h
          | ok result =>
              rw [read] at h
              cases h
              simp_all [encode, Instruction.opcode, Decoder.word16_eq_ok.1 read]
        split at h
        · cases read : Decoder.word16 operand with
          | error => rw [read] at h; cases h
          | ok result =>
              rw [read] at h
              cases h
              simp_all [encode, Instruction.opcode, Decoder.word16_eq_ok.1 read]
        split at h
        · cases h; simp_all [encode, Instruction.opcode]
        split at h
        · cases h; simp_all [encode, Instruction.opcode]
        · cases h
  · rintro rfl
    exact decode_encode instruction rest

theorem length_lt_of_decode {bytes rest : Bytes} {instruction : Instruction}
    (h : decode bytes = .ok (instruction, rest)) : rest.length < bytes.length := by
  have hlength : 0 < instruction.encode.length := by simp [encode]
  rw [decode_eq_ok.1 h, List.length_append]
  omega

/-- Reads instructions until the bytes end or one cannot be read, and puts them behind those in
`found`, which holds the earlier ones in reverse. -/
def scanOnto (found : List Instruction) (bytes : Bytes) : List Instruction × Option Error :=
  if bytes = [] then (found.reverse, none)
  else
    match _read : decode bytes with
    | .error error => (found.reverse, some error)
    | .ok (instruction, rest) => scanOnto (instruction :: found) rest
termination_by bytes.length
decreasing_by exact length_lt_of_decode _read

/-- The instructions at the front of a byte string, and why the first thing after them is not an
instruction, unless they reach to its end. -/
def scan (bytes : Bytes) : List Instruction × Option Error := scanOnto [] bytes

end Instruction

end ClassFile
end AccessorSynthesis
