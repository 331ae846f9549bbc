import AccessorSynthesis.ClassFile.Constant

/-!
# Constant pools

A constant pool is a numbered list of distinct constants. Indices start at one, and the count that
a class file stores is the number of entries plus one, so a pool has room for 65534 entries. This
file defines

* `ConstantPool` — the entries in order, with a map that finds the place of an entry;
* `ConstantPool.get?`, `utf8At?`, `classNameAt?`, `stringAt?`, `methodRefAt?` — what is at an index;
* `ConstantPool.add`, `addUtf8`, `addClass`, `addString`, `addNameAndType`, `addMethodRef` — the
  index of an entry, which is appended if it is not there yet;
* `ConstantPool.encode?`, `ConstantPool.decode` — the stored form.

Adding an entry that names others adds those first. When the room runs out on the way, what was
added before stays in the pool.
-/

namespace AccessorSynthesis
namespace ClassFile

/-- A change of a state that may be refused. A refused change keeps what it did until then. -/
abbrev Update (State α : Type) := ExceptT Error (StateM State) α

/-- Distinct constants in the order in which they were added. -/
structure ConstantPool where
  entries : Array Constant
  /-- The place of each entry, counted from zero. -/
  positions : Std.ExtTreeMap Constant Nat Constant.order
  position_iff : ∀ (constant : Constant) (position : Nat),
    positions[constant]? = some position ↔ entries[position]? = some constant
  /-- The stored count is one more than the number of entries, and is a word of two bytes. -/
  size_le : entries.size ≤ 65534

namespace ConstantPool

/-- The most entries a pool can have. -/
def capacity : Nat := 65534

/-- The pool without entries. -/
def empty : ConstantPool where
  entries := #[]
  positions := ∅
  position_iff := by simp
  size_le := by simp

/-- The number of entries. -/
def size (pool : ConstantPool) : Nat := pool.entries.size

/-- The index of the entry at a place counted from zero. -/
def indexOf (position : Nat) : UInt16 := UInt16.ofNat (position + 1)

theorem position_iff_push (pool : ConstantPool) (constant : Constant)
    (absent : pool.positions[constant]? = none) (other : Constant) (position : Nat) :
    (pool.positions.insert constant pool.entries.size)[other]? = some position ↔
      (pool.entries.push constant)[position]? = some other := by
  rw [Std.ExtTreeMap.getElem?_insert, Array.getElem?_push]
  by_cases same : constant = other
  · subst same
    simp only [Std.ReflCmp.compare_self, if_true]
    by_cases last : position = pool.entries.size
    · simp [last]
    · have elsewhere : pool.entries[position]? ≠ some constant := by
        intro found
        have := (pool.position_iff constant position).2 found
        simp [absent] at this
      simp [last, elsewhere, eq_comm]
  · have different : Constant.order constant other ≠ .eq :=
      fun equal => same (Constant.eq_of_order_eq equal)
    rw [if_neg different, pool.position_iff other position]
    by_cases last : position = pool.entries.size
    · simp [last, same]
    · simp [last]

/-- The pool with one more entry at its end. -/
@[inline]
def push (pool : ConstantPool) (constant : Constant) (absent : pool.positions[constant]? = none)
    (room : pool.size < capacity) : ConstantPool :=
  -- The size is taken first, so that the array can grow in place.
  let last := pool.entries.size
  {
    entries := pool.entries.push constant
    positions := pool.positions.insert constant last
    position_iff := pool.position_iff_push constant absent
    size_le := by
      have := room
      simp only [size, capacity] at this
      simp
      omega
  }

@[simp] theorem size_push (pool : ConstantPool) (constant : Constant)
    (absent : pool.positions[constant]? = none) (room : pool.size < capacity) :
    (pool.push constant absent room).size = pool.size + 1 := by
  simp [push, size]

/-! ## What is at an index -/

/-- The entry at an index. No entry is at index zero. -/
def get? (pool : ConstantPool) (index : UInt16) : Option Constant :=
  if index.toNat = 0 then none else pool.entries[index.toNat - 1]?

/-- The text entry at an index. -/
def utf8At? (pool : ConstantPool) (index : UInt16) : Option String :=
  match pool.get? index with
  | some (.utf8 text) => some text
  | _ => none

/-- The name of the class entry at an index. -/
def classNameAt? (pool : ConstantPool) (index : UInt16) : Option String :=
  match pool.get? index with
  | some (.className text) => pool.utf8At? text
  | _ => none

/-- The contents of the string entry at an index. -/
def stringAt? (pool : ConstantPool) (index : UInt16) : Option String :=
  match pool.get? index with
  | some (.stringLiteral text) => pool.utf8At? text
  | _ => none

/-- A method as a pool entry describes it. -/
structure MethodRef where
  owner : String
  name : String
  descriptor : String
deriving DecidableEq

/-- The owner, name and descriptor of the method entry at an index. -/
def methodRefAt? (pool : ConstantPool) (index : UInt16) : Option MethodRef :=
  match pool.get? index with
  | some (.methodRef owner nameAndType) =>
      match pool.get? nameAndType with
      | some (.nameAndType name descriptor) => do
          let owner ← pool.classNameAt? owner
          let name ← pool.utf8At? name
          let descriptor ← pool.utf8At? descriptor
          return { owner, name, descriptor }
      | _ => none
  | _ => none

/-- The entries with their indices. -/
def toList (pool : ConstantPool) : List (UInt16 × Constant) :=
  pool.entries.toList.zipIdx.map fun (constant, position) => (indexOf position, constant)

/-- The index of a text entry, if the pool has it. -/
def indexOfUtf8? (pool : ConstantPool) (text : String) : Option UInt16 :=
  pool.positions[Constant.utf8 text]?.map indexOf

/-! ## Adding entries -/

/-- The index of an entry, which is appended if the pool does not have it yet. -/
def add (constant : Constant) : Update ConstantPool UInt16 := fun pool =>
  match absent : pool.positions[constant]? with
  | some position => (.ok (indexOf position), pool)
  | none =>
      if room : pool.size < capacity then
        (.ok (indexOf pool.size), pool.push constant absent room)
      else (.error .poolFull, pool)

/-- The index of a text entry. -/
def addUtf8 (text : String) : Update ConstantPool UInt16 := add (.utf8 text)

/-- The index of a class entry. -/
def addClass (name : String) : Update ConstantPool UInt16 := do
  let name ← addUtf8 name
  add (.className name)

/-- The index of a string entry. -/
def addString (text : String) : Update ConstantPool UInt16 := do
  let text ← addUtf8 text
  add (.stringLiteral text)

/-- The index of an entry that pairs a name with a descriptor. -/
def addNameAndType (name descriptor : String) : Update ConstantPool UInt16 := do
  let name ← addUtf8 name
  let descriptor ← addUtf8 descriptor
  add (.nameAndType name descriptor)

/-- The index of a method entry. -/
def addMethodRef (method : MethodRef) : Update ConstantPool UInt16 := do
  let owner ← addClass method.owner
  let nameAndType ← addNameAndType method.name method.descriptor
  add (.methodRef owner nameAndType)

/-! ## The stored form -/

/-- The count and the entries, unless a text is too long. -/
def encode? (pool : ConstantPool) : Except Error Bytes := do
  let entries ← pool.entries.toList.mapM Constant.encode?
  return Bytes.ofWord16 (indexOf pool.size) ++ entries.flatten

/-- Reads `count` entries and appends them to a pool that has room for them. -/
def decodeOnto : (count : Nat) → (pool : ConstantPool) → pool.size + count ≤ capacity →
    Decoder ConstantPool
  | 0, pool, _, bytes => .ok (pool, bytes)
  | count + 1, pool, room, bytes =>
      match Constant.decode bytes with
      | .error error => .error error
      | .ok (constant, rest) =>
          match absent : pool.positions[constant]? with
          | some _ => .error .duplicateConstant
          | none =>
              decodeOnto count (pool.push constant absent (by omega))
                (by rw [size_push]; omega) rest

/-- Reads a pool. The stored count is one more than the number of entries; no entry follows a
count of zero either. -/
def decode : Decoder ConstantPool := do
  let count ← Decoder.word16
  decodeOnto (count.toNat - 1) empty
    (by
      have := count.toNat_lt
      simp only [empty, size, capacity, Array.size_empty]
      omega)

end ConstantPool

end ClassFile
end AccessorSynthesis
