import AccessorSynthesis.Proofs.ClassFile.RoundTrip

/-!
# Indexing — what an index stands for, now and later

Whoever asks a pool for an entry keeps its index and relies on it from then on.  This file defines

* `ConstantPool.afterCalls pool calls` — the pool that calls of the adding functions leave;
* `PoolCall.SameKind call other` — both calls are of the same function;
* `ConstantPool.Indexed pool` — the indices of the pool are those of its entries, in order and
  without wrapping around, and what one of them was given out for it stands for after any further
  calls.

An entry that a call asks for is found wherever it already is (`PoolCall.update_of_foundAt`), and a
pool that grows loses none of them (`PoolCall.FoundAt.extends`).  From these two facts everything
else follows, for pools that are empty, were read or were filled, and for calls that are refused
halfway as well (`indexed_afterCalls`).
-/

namespace AccessorSynthesis
namespace ClassFile

open ConstantPool (Extends)

variable {pool later : ConstantPool} {index : UInt16}

/-! ## Calls and their entries -/

namespace PoolCall

variable {call other : PoolCall}

/-- Both calls are of the same function. -/
def SameKind (call other : PoolCall) : Prop := call.ctorIdx = other.ctorIdx

theorem FoundAt.extends (h : call.FoundAt pool index) (hextends : pool.Extends later) :
    call.FoundAt later index := by
  cases call with
  | add constant =>
      exact hextends.get? h
  | addUtf8 text =>
      exact hextends.utf8At? h
  | addClass name =>
      exact hextends.classNameAt? h
  | addString text =>
      exact hextends.stringAt? h
  | addNameAndType name descriptor =>
      rcases h with ⟨nameIndex, descriptorIndex, hpair, hname, hdescriptor⟩
      exact ⟨nameIndex, descriptorIndex, hextends.get? hpair, hextends.utf8At? hname,
        hextends.utf8At? hdescriptor⟩
  | addMethodRef method =>
      exact hextends.methodRefAt? h

/-- What the pool has already is not added again. -/
theorem update_of_foundAt (h : call.FoundAt pool index) : call.update pool = (.ok index, pool) := by
  cases call with
  | add constant =>
      exact ConstantPool.add_of_get? h
  | addUtf8 text =>
      exact ConstantPool.add_of_get? (ConstantPool.utf8At?_eq_some_iff.1 h)
  | addClass name =>
      exact ConstantPool.addClass_of_classNameAt? h
  | addString text =>
      exact ConstantPool.addString_of_stringAt? h
  | addNameAndType name descriptor =>
      rcases h with ⟨nameIndex, descriptorIndex, hpair, hname, hdescriptor⟩
      exact ConstantPool.addNameAndType_of_get? hpair hname hdescriptor
  | addMethodRef method =>
      exact ConstantPool.addMethodRef_of_methodRefAt? h

theorem foundAt_of_update (h : call.update pool = (.ok index, later)) :
    call.FoundAt later index := by
  rcases call.achieves pool with ⟨texts, hachieves⟩
  exact (Ends.ok_of_eq hachieves h).2

/-- A call adds entries at the end of the pool, whether it is refused or not. -/
theorem extends_update (call : PoolCall) (pool : ConstantPool) :
    pool.Extends (call.update pool).2 := by
  rcases call.achieves pool with ⟨texts, hachieves⟩
  exact Ends.state (Ends.mono hachieves (fun _ _ h => h.1.stable) fun _ _ h => h.1.stable)

/-- An index stands for one thing only, as far as calls of one function go. -/
theorem eq_of_foundAt (hkind : call.SameKind other) (h : call.FoundAt pool index)
    (h' : other.FoundAt pool index) : call = other := by
  cases call with
  | add constant =>
      cases other with
      | add constant' =>
          exact congrArg add (Option.some.inj (Eq.trans (Eq.symm h) h'))
      | _ =>
          cases hkind
  | addUtf8 text =>
      cases other with
      | addUtf8 text' =>
          exact congrArg addUtf8 (Option.some.inj (Eq.trans (Eq.symm h) h'))
      | _ =>
          cases hkind
  | addClass name =>
      cases other with
      | addClass name' =>
          exact congrArg addClass (Option.some.inj (Eq.trans (Eq.symm h) h'))
      | _ =>
          cases hkind
  | addString text =>
      cases other with
      | addString text' =>
          exact congrArg addString (Option.some.inj (Eq.trans (Eq.symm h) h'))
      | _ =>
          cases hkind
  | addNameAndType name descriptor =>
      cases other with
      | addNameAndType name' descriptor' =>
          rcases h with ⟨nameIndex, descriptorIndex, hpair, hname, hdescriptor⟩
          rcases h' with ⟨nameIndex', descriptorIndex', hpair', hname', hdescriptor'⟩
          -- The entry at the index is the same, and so are the two texts that it names.
          rw [hpair] at hpair'
          cases hpair'
          rw [hname] at hname'
          rw [hdescriptor] at hdescriptor'
          cases hname'
          cases hdescriptor'
          rfl
      | _ =>
          cases hkind
  | addMethodRef method =>
      cases other with
      | addMethodRef method' =>
          exact congrArg addMethodRef (Option.some.inj (Eq.trans (Eq.symm h) h'))
      | _ =>
          cases hkind

end PoolCall

/-! ## Sequences of calls -/

namespace ConstantPool

/-- The pool that a sequence of calls leaves, each of them refused or not. -/
def afterCalls (pool : ConstantPool) (calls : List PoolCall) : ConstantPool :=
  calls.foldl (fun pool call => (call.update pool).2) pool

theorem extends_afterCalls (pool : ConstantPool) (calls : List PoolCall) :
    pool.Extends (pool.afterCalls calls) := by
  induction calls generalizing pool with
  | nil =>
      exact Extends.refl pool
  | cons call calls ih =>
      exact (call.extends_update pool).trans (ih (call.update pool).2)

/-- Indices are counted from one, and none of them wraps around. -/
theorem toNat_indices (pool : ConstantPool) :
    (pool.toList.map fun entry => entry.1.toNat) = List.range' 1 pool.size := by
  have hindex : ∀ item ∈ pool.entries.toList.zipIdx, (indexOf item.2).toNat = 1 + item.2 := by
    intro item hitem
    have hat : pool.entries[item.2]? = some item.1 := by
      rw [← Array.getElem?_toList]
      exact List.mem_zipIdx_iff_getElem?.1 hitem
    rw [toNat_indexOf (lt_capacity_of_getElem? hat), Nat.add_comm]
  calc
    (pool.toList.map fun entry => entry.1.toNat)
        = pool.entries.toList.zipIdx.map fun item => (indexOf item.2).toNat := by
          simp [toList, Function.comp_def]
    _ = pool.entries.toList.zipIdx.map fun item => 1 + item.2 := List.map_congr_left hindex
    _ = (pool.entries.toList.zipIdx.map Prod.snd).map (1 + ·) := by
          rw [List.map_map]
          rfl
    _ = List.range' 1 pool.size := by
          rw [List.zipIdx_map_snd, List.map_add_range']
          rfl

/-- The count that is stored is one more than the number of entries, and does not wrap around. -/
theorem word16_of_encode? {bytes : Bytes} (h : pool.encode? = .ok bytes) :
    ∃ count stored, Decoder.word16 bytes = .ok (count, stored) ∧ count.toNat = pool.size + 1 := by
  rcases bind_eq_ok_iff.1 h with ⟨parts, _, hbytes⟩
  cases hbytes
  exact ⟨_, _, Decoder.word16_ofWord16 _ _, pool.toNat_indexOf_size⟩

/-- The indices of a pool are those of its entries, and what one of them was given out for it stands
for after any further calls. -/
structure Indexed (pool : ConstantPool) : Prop where
  distinct : pool.entries.toList.Nodup
  size_le : pool.size ≤ 65534
  indices : (pool.toList.map fun entry => entry.1.toNat) = List.range' 1 pool.size
  count : ∀ bytes, pool.encode? = .ok bytes →
    ∃ count stored, Decoder.word16 bytes = .ok (count, stored) ∧ count.toNat = pool.size + 1
  stable : ∀ index constant, pool.get? index = some constant →
    ∀ calls, (pool.afterCalls calls).get? index = some constant
  added : ∀ constant index later, add constant pool = (.ok index, later) →
    (∀ other, later.get? other = some constant ↔ other = index) ∧
      later.entries = if constant ∈ pool then pool.entries else pool.entries.push constant
  refused : ∀ constant error later, add constant pool = (.error error, later) ↔
    error = .poolFull ∧ constant ∉ pool ∧ pool.size = 65534 ∧ later = pool
  lasting : ∀ call index later, PoolCall.update call pool = (.ok index, later) →
    ∀ calls, call.FoundAt (later.afterCalls calls) index
  again : ∀ call index later, PoolCall.update call pool = (.ok index, later) →
    ∀ calls, call.update (later.afterCalls calls) = (.ok index, later.afterCalls calls)
  apart : ∀ call other index index' later last calls, PoolCall.SameKind call other → call ≠ other →
    call.update pool = (.ok index, later) →
    other.update (later.afterCalls calls) = (.ok index', last) → index ≠ index'

/-- An entry is at no index but its own. -/
theorem get?_eq_some_iff_of_get? {constant : Constant} (h : pool.get? index = some constant)
    (other : UInt16) : pool.get? other = some constant ↔ other = index := by
  constructor
  · intro hother
    -- Looking for the entry gives one index, whichever of the two it is said to be at.
    have hsame := (add_of_get? hother).symm.trans (add_of_get? h)
    cases hsame
    rfl
  · rintro rfl
    exact h

/-- Whatever calls are made of a pool, and whichever of them are refused, its indices go on standing
for what they were given out for. -/
theorem indexed_afterCalls (start : ConstantPool) (calls : List PoolCall) :
    Indexed (start.afterCalls calls) := by
  generalize start.afterCalls calls = pool
  have hlasting : ∀ call index later, PoolCall.update call pool = (.ok index, later) →
      ∀ calls, call.FoundAt (later.afterCalls calls) index :=
    fun call index later h calls =>
      (PoolCall.foundAt_of_update h).extends (later.extends_afterCalls calls)
  refine ⟨pool.nodup_entries, pool.size_le, pool.toNat_indices, fun _ => word16_of_encode?, ?_, ?_,
    fun _ _ _ => add_eq_error_iff, hlasting, ?_, ?_⟩
  · intro index constant hget calls
    exact (pool.extends_afterCalls calls).get? hget
  · intro constant index later hadd
    exact ⟨get?_eq_some_iff_of_get? (add_eq_ok hadd).1, (add_eq_ok hadd).2⟩
  · intro call index later hcall calls
    exact PoolCall.update_of_foundAt (hlasting call index later hcall calls)
  · rintro call other index _ later last calls hkind hne hcall hother rfl
    -- Both would be found at one index of the last pool.
    have hfirst : call.FoundAt last index := by
      have hextends := other.extends_update (later.afterCalls calls)
      rw [hother] at hextends
      exact (hlasting call index later hcall calls).extends hextends
    exact hne (PoolCall.eq_of_foundAt hkind hfirst (PoolCall.foundAt_of_update hother))

end ConstantPool
end ClassFile
end AccessorSynthesis
