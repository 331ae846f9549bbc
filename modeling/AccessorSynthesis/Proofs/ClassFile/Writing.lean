import Mathlib.Data.List.Nodup
import Mathlib.Data.List.Perm.Subperm
import AccessorSynthesis.ClassFile.Codec
import AccessorSynthesis.Proofs.ClassFile.Invariant
import AccessorSynthesis.Proofs.Refusable

/-!
# Writing — why a class file cannot be written

A well formed class file whose interfaces are distinct fits all of its tables, and its bodies have
allowed sizes.  What is left is a text that is too long (`WellFormed.exists_of_toBytes_eq_error`).
-/

namespace AccessorSynthesis
namespace ClassFile

variable {file : ClassFile} {e : Error}

/-- The text needs more bytes in a class file than its length field can say. -/
def IsTooLong (text : String) : Prop := 65535 < (ModifiedUtf8.encode text).length

instance (text : String) : Decidable (IsTooLong text) :=
  inferInstanceAs (Decidable (65535 < (ModifiedUtf8.encode text).length))

theorem Constant.exists_of_encode?_eq_error {constant : Constant}
    (h : constant.encode? = .error e) : ∃ text, constant = .utf8 text ∧ IsTooLong text ∧
      e = .textTooLong (ModifiedUtf8.encode text).length := by
  cases constant with
  | utf8 text =>
      unfold encode? at h
      by_cases hlength : (ModifiedUtf8.encode text).length < 65536
      · simp only [if_pos hlength] at h
        cases h
      · simp only [if_neg hlength] at h
        cases h
        exact ⟨text, rfl, Nat.not_lt.1 hlength, rfl⟩
  | className | stringLiteral | methodRef | nameAndType =>
      cases h

theorem ConstantPool.exists_of_encode?_eq_error {pool : ConstantPool} (h : pool.encode? = .error e) :
    ∃ text, .utf8 text ∈ pool ∧ IsTooLong text ∧
      e = .textTooLong (ModifiedUtf8.encode text).length := by
  rcases bind_eq_error_iff.1 h with hentries | ⟨_, _, hmade⟩
  · rcases exists_of_mapM_eq_error hentries with ⟨constant, hmem, herror⟩
    rcases Constant.exists_of_encode?_eq_error herror with ⟨text, rfl, hlong, rfl⟩
    exact ⟨text, Array.mem_toList_iff.1 hmem, hlong, rfl⟩
  · cases hmade

theorem encodeCount?_eq_error_iff {count : Nat} :
    encodeCount? count = .error e ↔ 65535 < count ∧ e = .tooManyEntries count := by
  unfold encodeCount?
  split
  · simp
    omega
  · simp [eq_comm]
    omega

theorem encodeCount?_ne_error {count : Nat} (h : count < 65536) : encodeCount? count ≠ .error e := by
  intro herror
  exact absurd h (Nat.not_lt.2 (encodeCount?_eq_error_iff.1 herror).1)

/-- A method that resolves can be written.  A body takes its size and eighteen bytes around it. -/
theorem Method.exists_encode? {method : Method} (h : method.Resolves file) :
    ∃ written, method.encode? file.codeName = .ok written ∧
      written.length = 8 + (method.body.map fun body => body.size + 18).getD 0 := by
  unfold encode?
  cases hbody : method.body with
  | none =>
      exact ⟨_, rfl, rfl⟩
  | some body =>
      rcases h.body body hbody with ⟨hsize, hnoted⟩
      rcases Option.isSome_iff_exists.1 hnoted with ⟨index, hindex⟩
      simp only [hindex, MethodBody.checkSize_eq_ok_iff.2 hsize]
      refine ⟨_, rfl, ?_⟩
      simp only [List.length_append, Bytes.length_ofWord16, Bytes.length_ofWord32,
        MethodBody.length_encode, Option.map_some, Option.getD_some]
      omega

theorem Method.encode?_ne_error {method : Method} (h : method.Resolves file) :
    method.encode? file.codeName ≠ .error e := by
  rcases Method.exists_encode? h with ⟨written, hwritten, _⟩
  rw [hwritten]
  intro hequal
  cases hequal

namespace WellFormed

/-- Distinct interfaces have distinct indices, none of which is zero. -/
theorem length_interfaces_lt (h : file.WellFormed) (hnodup : file.interfaces.Nodup) :
    file.interfaces.length < 65536 := by
  have hindices : (file.interfaces.map UInt16.toNat).Nodup :=
    hnodup.map fun first second => UInt16.toNat_inj.1
  -- Index zero leads nowhere, so that 65535 indices are left.
  have hrange : file.interfaces.map UInt16.toNat ⊆ List.range' 1 65535 := by
    intro position hposition
    rcases List.mem_map.1 hposition with ⟨index, hindex, rfl⟩
    have hnonzero : index.toNat ≠ 0 := by
      intro hzero
      have hnone : file.pool.classNameAt? index = none := by
        simp [ConstantPool.classNameAt?, ConstantPool.get?, hzero]
      have hsome := h.interfaces index hindex
      rw [hnone] at hsome
      cases hsome
    have hlt := index.toNat_lt
    exact List.mem_range'_1.2 ⟨by omega, by omega⟩
  have hlength := (hindices.subperm hrange).length_le
  rw [List.length_map, List.length_range'] at hlength
  omega

theorem exists_of_toBytes_eq_error (h : file.WellFormed) (hnodup : file.interfaces.Nodup)
    (hmethods : file.methods.length < 65536) (herror : file.toBytes = .error e) :
    ∃ text, .utf8 text ∈ file.pool ∧ IsTooLong text ∧
      e = .textTooLong (ModifiedUtf8.encode text).length := by
  rcases bind_eq_error_iff.1 herror with hpool | ⟨pool, _, hrest⟩
  · exact ConstantPool.exists_of_encode?_eq_error hpool
  -- None of the later parts is refused.
  exfalso
  rcases bind_eq_error_iff.1 hrest with hcount | ⟨interfaceCount, _, hrest⟩
  · exact encodeCount?_ne_error (h.length_interfaces_lt hnodup) hcount
  rcases bind_eq_error_iff.1 hrest with hcount | ⟨methodCount, _, hrest⟩
  · exact encodeCount?_ne_error hmethods hcount
  rcases bind_eq_error_iff.1 hrest with hparts | ⟨parts, _, hmade⟩
  · rcases exists_of_mapM_eq_error hparts with ⟨method, hmem, hmethod⟩
    exact Method.encode?_ne_error (h.methods method hmem) hmethod
  · cases hmade

end WellFormed

end ClassFile
end AccessorSynthesis
