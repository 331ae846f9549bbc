/-!
# Keyed entries

Values under distinct texts as keys, in the order in which the keys came. Replacing a value leaves
its key where it is.
-/

namespace AccessorSynthesis

/-- Values under keys, in the order in which the keys came. -/
structure Keyed (α : Type) where
  entries : List (String × α)
deriving DecidableEq

namespace Keyed

variable {α : Type}

/-- No entries. -/
def empty : Keyed α := ⟨[]⟩

/-- The value under a key. -/
def find? (keyed : Keyed α) (key : String) : Option α := keyed.entries.lookup key

/-- The keys, in order. -/
def keys (keyed : Keyed α) : List String := keyed.entries.map Prod.fst

/-- The number of entries. -/
def size (keyed : Keyed α) : Nat := keyed.entries.length

/-- Adds an entry at the end. Its key should not be there yet. -/
def append (keyed : Keyed α) (key : String) (value : α) : Keyed α :=
  ⟨keyed.entries ++ [(key, value)]⟩

/-- Puts a value under a key, in place of the one that is there, or else at the end. -/
def put (keyed : Keyed α) (key : String) (value : α) : Keyed α :=
  if (keyed.find? key).isSome then
    ⟨keyed.entries.map fun entry => if entry.1 = key then (key, value) else entry⟩
  else keyed.append key value

/-- Takes a key and its value out. -/
def erase (keyed : Keyed α) (key : String) : Keyed α :=
  ⟨keyed.entries.filter fun entry => entry.1 != key⟩

end Keyed

end AccessorSynthesis
