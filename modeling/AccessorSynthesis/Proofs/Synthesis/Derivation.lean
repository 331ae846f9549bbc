import AccessorSynthesis.Compilation.Emission
import AccessorSynthesis.Synthesis.Derivation

/-!
# Derivation — shapes and flags of accessors

This file defines `Shape.IsRestricted`, the shapes without accessors, and says what flags and what
access word an accessor gets on the other ones.
-/

namespace AccessorSynthesis

/-- Declarations of the shape have no room for an accessor. -/
def Shape.IsRestricted (shape : Shape) : Prop := shape = .valueAggregate ∨ shape = .wrapper

instance (shape : Shape) : Decidable shape.IsRestricted :=
  inferInstanceAs (Decidable (shape = .valueAggregate ∨ shape = .wrapper))

/-- The shapes whose accessors have bodies. -/
theorem Shape.hasCode {shape : Shape} (h : ¬shape.IsRestricted) (hinterface : shape ≠ .interface) :
    shape = .plainClass ∨ shape = .object := by
  cases shape with
  | plainClass =>
      exact Or.inl rfl
  | object =>
      exact Or.inr rfl
  | interface =>
      exact absurd rfl hinterface
  | valueAggregate =>
      exact absurd (Or.inl rfl) h
  | wrapper =>
      exact absurd (Or.inr rfl) h

namespace Declaration

variable {declaration : Declaration} {mark : QualifiedName}

theorem restriction?_of_isRestricted (h : declaration.shape.IsRestricted) :
    declaration.restriction? mark
      = some ⟨.unsupportedShape mark.simpleName, declaration.span⟩ := by
  unfold restriction?
  rcases h with hshape | hshape
  · rw [hshape]
  · rw [hshape]

theorem restriction?_of_not_isRestricted (h : ¬declaration.shape.IsRestricted) :
    declaration.restriction? mark = none := by
  unfold restriction?
  cases hshape : declaration.shape with
  | plainClass | interface | object =>
      rfl
  | valueAggregate =>
      exact absurd (Or.inl hshape) h
  | wrapper =>
      exact absurd (Or.inr hshape) h

/-- Accessors are always marked as generated. -/
theorem has_synthetic_accessorFlags (declaration : Declaration) :
    declaration.accessorFlags.has .synthetic = true := by
  unfold accessorFlags
  split
  · rfl
  · split
    · rfl
    · rfl

end Declaration

end AccessorSynthesis
