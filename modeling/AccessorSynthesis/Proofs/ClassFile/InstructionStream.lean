import Mathlib.Algebra.Ring.Nat
import AccessorSynthesis.ClassFile.Instruction
import AccessorSynthesis.Proofs.Refusable

/-!
# InstructionStream — instructions one after the other

The code of a body is its instructions, encoded and put one after the other.  This file defines

* `Instruction.Stops rest error` — reading cannot go on in front of `rest`, and reports `error`.

A scan of any bytes ends at the end of the bytes, or where it stops.  What it has found until then is
the only list of instructions that is written like that (`scan_eq_none_iff`, `scan_eq_some_iff`), so
that a list of instructions and its bytes determine each other (`streams`).
-/

namespace AccessorSynthesis
namespace ClassFile
namespace Instruction

variable {bytes rest : Bytes} {instructions : List Instruction} {error : Error}

/-! ## Where reading stops -/

/-- No instruction can be read at the front of the bytes, which are not empty, for this reason. -/
inductive Stops : Bytes → Error → Prop where
  /-- The next byte starts no instruction. -/
  | unknown {byte : UInt8} {later : Bytes} :
      (∀ instruction : Instruction, instruction.opcode ≠ byte) →
      Stops (byte :: later) (.unsupportedOpcode byte)
  /-- The next byte starts an instruction, and fewer bytes are left than that takes. -/
  | cutShort {instruction : Instruction} {operand : Bytes} :
      1 + operand.length < instruction.size → Stops (instruction.opcode :: operand) .truncated

theorem word16_eq_error_iff : Decoder.word16 bytes = .error error ↔
    error = .truncated ∧ bytes.length < 2 := by
  match bytes with
  | [] | [_] =>
      simp [Decoder.word16, eq_comm]
  | _ :: _ :: _ =>
      simp [Decoder.word16]

theorem stops_of_decode (hfilled : bytes ≠ []) (h : decode bytes = .error error) :
    Stops bytes error := by
  rcases bytes with _ | ⟨byte, operand⟩
  · exact absurd rfl hfilled
  simp only [decode] at h
  -- One case for each opcode, in the order in which they are tried.
  split at h
  · cases h
  rename_i hloadThis
  split at h
  · rename_i hopcode
    subst hopcode
    rcases operand with _ | ⟨index, later⟩
    · cases h
      exact @Stops.cutShort (.loadConstant 0) [] (by simp [size])
    · cases h
  rename_i hloadConstant
  split at h
  · rename_i hopcode
    subst hopcode
    rcases word16_eq_error_iff.1 (map_eq_error_iff.1 h) with ⟨rfl, hshort⟩
    exact @Stops.cutShort (.loadConstantWide 0) operand (by simp [size]; omega)
  rename_i hloadConstantWide
  split at h
  · rename_i hopcode
    subst hopcode
    rcases word16_eq_error_iff.1 (map_eq_error_iff.1 h) with ⟨rfl, hshort⟩
    exact @Stops.cutShort (.invokeSpecial 0) operand (by simp [size]; omega)
  rename_i hinvokeSpecial
  split at h
  · cases h
  rename_i hreturnReference
  split at h
  · cases h
  rename_i hreturnVoid
  cases h
  apply Stops.unknown
  -- Every instruction has one of the opcodes that were tried.
  intro instruction hopcode
  cases instruction <;> simp_all [opcode]

theorem decode_of_stops (h : Stops bytes error) : decode bytes = .error error := by
  cases h with
  | @unknown byte later hunknown =>
      have hloadThis : byte ≠ 0x2a := Ne.symm (hunknown .loadThis)
      have hloadConstant : byte ≠ 0x12 := Ne.symm (hunknown (.loadConstant 0))
      have hloadConstantWide : byte ≠ 0x13 := Ne.symm (hunknown (.loadConstantWide 0))
      have hinvokeSpecial : byte ≠ 0xb7 := Ne.symm (hunknown (.invokeSpecial 0))
      have hreturnReference : byte ≠ 0xb0 := Ne.symm (hunknown .returnReference)
      have hreturnVoid : byte ≠ 0xb1 := Ne.symm (hunknown .returnVoid)
      simp [decode, hloadThis, hloadConstant, hloadConstantWide, hinvokeSpecial,
        hreturnReference, hreturnVoid]
  | @cutShort instruction operand hshort =>
      cases instruction with
      | loadThis | returnReference | returnVoid =>
          simp [size] at hshort
      | loadConstant index =>
          have hempty : operand = [] := by
            apply List.eq_nil_of_length_eq_zero
            simp only [size] at hshort
            omega
          subst hempty
          rfl
      | loadConstantWide index | invokeSpecial index =>
          have hword : Decoder.word16 operand = .error .truncated :=
            word16_eq_error_iff.2 ⟨rfl, by simp only [size] at hshort; omega⟩
          simp [decode, opcode, hword, Except.map]

theorem ne_nil_of_stops (h : Stops bytes error) : bytes ≠ [] := by
  cases h <;> simp

/-! ## Whole streams -/

/-- Encoded instructions are found one by one, whatever stands behind them. -/
theorem scanOnto_encode (instructions found : List Instruction) (rest : Bytes) :
    scanOnto found (instructions.flatMap encode ++ rest)
      = scanOnto (instructions.reverse ++ found) rest := by
  induction instructions generalizing found with
  | nil =>
      rfl
  | cons instruction instructions ih =>
      have hread := decode_encode instruction (instructions.flatMap encode ++ rest)
      have hcons : (instruction :: instructions).flatMap encode ++ rest
          = encode instruction ++ (instructions.flatMap encode ++ rest) := by
        simp
      -- No instruction is empty, so that the scan goes on.
      have hfilled : encode instruction ++ (instructions.flatMap encode ++ rest) ≠ [] := by
        simp [encode]
      rw [hcons, scanOnto, if_neg hfilled]
      split
      · rename_i error heq
        rw [hread] at heq
        cases heq
      · rename_i first later heq
        rw [hread] at heq
        cases heq
        simpa using ih (instruction :: found)

/-- A scan has found the instructions that are written in front of the place where it ends. -/
theorem exists_of_scanOnto {found : List Instruction} {outcome : Option Error}
    (h : scanOnto found bytes = (instructions, outcome)) :
    ∃ later rest, instructions = found.reverse ++ later ∧ bytes = later.flatMap encode ++ rest ∧
      (outcome = none ∧ rest = [] ∨ ∃ error, outcome = some error ∧ Stops rest error) := by
  -- The walk ends at the end of the bytes, at an error, or goes on behind an instruction.
  fun_induction scanOnto found bytes with
  | case1 found =>
      cases h
      exact ⟨[], [], by simp, by simp, Or.inl ⟨rfl, rfl⟩⟩
  | case2 found bytes hfilled error hread =>
      cases h
      exact ⟨[], bytes, by simp, by simp, Or.inr ⟨error, rfl, stops_of_decode hfilled hread⟩⟩
  | case3 found bytes hfilled instruction behind hread ih =>
      rcases ih h with ⟨later, rest, rfl, rfl, hends⟩
      refine ⟨instruction :: later, rest, by simp, ?_, hends⟩
      simpa using decode_eq_ok.1 hread

theorem scanOnto_of_stops {found : List Instruction} (h : Stops rest error) :
    scanOnto found rest = (found.reverse, some error) := by
  have hread := decode_of_stops h
  rw [scanOnto, if_neg (ne_nil_of_stops h)]
  split
  · rename_i cause heq
    rw [hread] at heq
    cases heq
    rfl
  · rename_i instruction later heq
    rw [hread] at heq
    cases heq

theorem scan_eq_none_iff :
    scan bytes = (instructions, none) ↔ bytes = instructions.flatMap encode := by
  constructor
  · intro h
    rcases exists_of_scanOnto h with ⟨later, rest, rfl, rfl, ⟨_, rfl⟩ | ⟨error, ⟨⟩, _⟩⟩
    simp
  · rintro rfl
    have hall := scanOnto_encode instructions [] []
    rw [List.append_nil] at hall
    rw [scan, hall, scanOnto, if_pos rfl]
    simp

theorem scan_encode (instructions : List Instruction) :
    scan (instructions.flatMap encode) = (instructions, none) :=
  scan_eq_none_iff.2 rfl

theorem scan_eq_some_iff : scan bytes = (instructions, some error) ↔
    ∃ rest, bytes = instructions.flatMap encode ++ rest ∧ Stops rest error := by
  constructor
  · intro h
    rcases exists_of_scanOnto h with ⟨later, rest, rfl, rfl, ⟨⟨⟩, _⟩ | ⟨cause, ⟨⟩, hstops⟩⟩
    exact ⟨rest, by simp, hstops⟩
  · rintro ⟨rest, rfl, hstops⟩
    rw [scan, scanOnto_encode, scanOnto_of_stops hstops]
    simp

theorem length_flatMap_encode (instructions : List Instruction) :
    (instructions.flatMap encode).length = (instructions.map size).sum := by
  simp [List.length_flatMap, length_encode]

/-- A list of instructions and the bytes it is written in determine each other: the list is read
back, in as many bytes as its instructions take, and a scan that reaches the end of any bytes has
found the list that is written in them.  A scan that fails has found the list that is written in
front of the place where reading stops, and reports what is wrong there. -/
theorem streams :
    (∀ instructions : List Instruction,
      scan (instructions.flatMap encode) = (instructions, none) ∧
      (instructions.flatMap encode).length = (instructions.map size).sum) ∧
    ∀ (bytes : Bytes) (instructions : List Instruction),
      (scan bytes = (instructions, none) ↔ instructions.flatMap encode = bytes) ∧
      ∀ error : Error, scan bytes = (instructions, some error) ↔
        ∃ rest, bytes = instructions.flatMap encode ++ rest ∧ Stops rest error := by
  constructor
  · intro instructions
    exact ⟨scan_encode instructions, length_flatMap_encode instructions⟩
  · intro bytes instructions
    constructor
    · rw [scan_eq_none_iff, eq_comm]
    · intro error
      exact scan_eq_some_iff

end Instruction
end ClassFile
end AccessorSynthesis
