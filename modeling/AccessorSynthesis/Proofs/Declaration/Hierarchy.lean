import Mathlib.Logic.Relation
import AccessorSynthesis.Declaration.Hierarchy

/-!
# Hierarchy — what the walk over supertypes meets

The walk is specified without a queue.  This file defines

* `Table.HasSupertype table id other` — there is an edge from an existing declaration to a number;
* `Table.Inherits table id mark` — edges lead from `id`, in any number of steps, to an existing
  declaration that itself carries the annotation.

`isTrackable_iff` says that the walk decides `Inherits`, on graphs with cycles and with edges that
lead nowhere as well.
-/

namespace AccessorSynthesis
namespace Table

open Relation (ReflTransGen)

variable {table : Table} {id other : DeclarationId} {mark : QualifiedName}

/-- The declaration exists and names the other number as a supertype. -/
def HasSupertype (table : Table) (id other : DeclarationId) : Prop :=
  ∃ declaration, table.get? id = some declaration ∧ other ∈ declaration.supertypes

/-- The declaration or one of its supertypes, direct or indirect, carries the annotation. -/
def Inherits (table : Table) (id : DeclarationId) (mark : QualifiedName) : Prop :=
  ∃ carrier declaration, ReflTransGen table.HasSupertype id carrier ∧
    table.get? carrier = some declaration ∧ declaration.carries mark = true

theorem Inherits.of_hasSupertype (h : table.Inherits other mark) (hedge : table.HasSupertype id other) :
    table.Inherits id mark := by
  rcases h with ⟨carrier, declaration, hreaches, hget, hcarries⟩
  exact ⟨carrier, declaration, ReflTransGen.head hedge hreaches, hget, hcarries⟩

/-! ## The walk -/

/-- A number that is still unvisited is the one met now, or it is left to the rest of the walk. -/
theorem eq_or_mem_erase {unvisited : Std.ExtTreeSet DeclarationId} (id : DeclarationId)
    (hmem : other ∈ unvisited) : other = id ∨ other ∈ unvisited.erase id := by
  by_cases hid : other = id
  · exact Or.inl hid
  · refine Or.inr (Std.ExtTreeSet.mem_erase.2 ⟨?_, hmem⟩)
    intro hequal
    exact hid (Std.LawfulEqOrd.eq_of_compare hequal).symm

theorem mem_supertypes_iff :
    other ∈ ((table.get? id).map Declaration.supertypes).getD [] ↔ table.HasSupertype id other := by
  constructor
  · intro h
    cases hget : table.get? id with
    | none =>
        simp [hget] at h
    | some declaration =>
        exact ⟨declaration, hget, by simpa [hget] using h⟩
  · rintro ⟨declaration, hget, hmem⟩
    simpa [hget] using hmem

/-- Whatever the walk meets is reached from its queue. -/
theorem exists_reaches_of_mem_walk (unvisited : Std.ExtTreeSet DeclarationId)
    (queue : List DeclarationId) :
    ∀ x ∈ table.walk unvisited queue, ∃ start ∈ queue, ReflTransGen table.HasSupertype start x := by
  -- The cases are those of the walk: an empty queue, a number met now, and one to pass over.
  fun_induction walk table unvisited queue with
  | case1 unvisited =>
      intro x hx
      cases hx
  | case2 unvisited id queue hpresent supertypes ih =>
      intro x hx
      rcases List.mem_cons.1 hx with rfl | hlater
      · exact ⟨x, List.mem_cons_self, ReflTransGen.refl⟩
      · rcases ih x hlater with ⟨start, hstart, hreaches⟩
        rcases List.mem_append.1 hstart with hqueue | hsuper
        · exact ⟨start, List.mem_cons_of_mem id hqueue, hreaches⟩
        · have hedge : table.HasSupertype id start := mem_supertypes_iff.1 hsuper
          exact ⟨id, List.mem_cons_self, ReflTransGen.head hedge hreaches⟩
  | case3 unvisited id queue habsent ih =>
      intro x hx
      rcases ih x hx with ⟨start, hstart, hreaches⟩
      exact ⟨start, List.mem_cons_of_mem id hstart, hreaches⟩

/-- The walk meets all of its queue, and with a declaration all supertypes of it, as far as they are
unvisited. -/
theorem walk_closed (unvisited : Std.ExtTreeSet DeclarationId) (queue : List DeclarationId) :
    (∀ x ∈ queue, x ∈ unvisited → x ∈ table.walk unvisited queue) ∧
    ∀ x ∈ table.walk unvisited queue, ∀ y, table.HasSupertype x y → y ∈ unvisited →
      y ∈ table.walk unvisited queue := by
  fun_induction walk table unvisited queue with
  | case1 unvisited =>
      simp
  | case2 unvisited id queue hpresent supertypes ih =>
      -- The rest of the walk is closed only up to `id`, which is met now.
      have hlater : ∀ x, x ∈ queue ++ supertypes → x ∈ unvisited →
          x ∈ id :: table.walk (unvisited.erase id) (queue ++ supertypes) := by
        intro x hx hunvisited
        rcases eq_or_mem_erase id hunvisited with rfl | hleft
        · exact List.mem_cons_self
        · exact List.mem_cons_of_mem id (ih.1 x hx hleft)
      constructor
      · intro x hx hunvisited
        rcases List.mem_cons.1 hx with rfl | hqueue
        · exact List.mem_cons_self
        · exact hlater x (List.mem_append_left supertypes hqueue) hunvisited
      · intro x hx y hedge hunvisited
        rcases List.mem_cons.1 hx with rfl | hwalk
        · exact hlater y (List.mem_append_right queue (mem_supertypes_iff.2 hedge)) hunvisited
        · rcases eq_or_mem_erase id hunvisited with rfl | hleft
          · exact List.mem_cons_self
          · exact List.mem_cons_of_mem id (ih.2 x hwalk y hedge hleft)
  | case3 unvisited id queue habsent ih =>
      refine ⟨?_, ih.2⟩
      intro x hx hunvisited
      rcases List.mem_cons.1 hx with rfl | hqueue
      · exact absurd hunvisited habsent
      · exact ih.1 x hqueue hunvisited

/-! ## Ancestors -/

theorem mem_ids_iff : id ∈ table.ids ↔ (table.get? id).isSome = true := by
  simp [ids, get?, size]

theorem reaches_of_mem_ancestors (h : other ∈ table.ancestors id) :
    ReflTransGen table.HasSupertype id other := by
  rcases exists_reaches_of_mem_walk table.ids [id] other h with ⟨start, hstart, hreaches⟩
  cases List.mem_singleton.1 hstart
  exact hreaches

theorem mem_ancestors_of_reaches (h : ReflTransGen table.HasSupertype id other)
    (hexists : (table.get? other).isSome = true) : other ∈ table.ancestors id := by
  -- The induction is on the path.  An edge leaves each declaration on it but the last, so that all
  -- of them exist and are among the numbers that the walk starts with.
  induction h with
  | refl =>
      exact (walk_closed table.ids [id]).1 id List.mem_cons_self (mem_ids_iff.2 hexists)
  | @tail middle other _ hedge ih =>
      have hmiddle : (table.get? middle).isSome = true := by
        rcases hedge with ⟨declaration, hget, _⟩
        rw [hget]
        rfl
      exact (walk_closed table.ids [id]).2 middle (ih hmiddle) other hedge (mem_ids_iff.2 hexists)

theorem isTrackable_iff : table.isTrackable id mark = true ↔ table.Inherits id mark := by
  unfold isTrackable carrier?
  rw [List.findSome?_isSome_iff]
  constructor
  · rintro ⟨carrier, hmem, hfound⟩
    cases hget : table.get? carrier with
    | none =>
        simp [hget] at hfound
    | some declaration =>
        have hcarries : declaration.carries mark = true := by simpa [hget] using hfound
        exact ⟨carrier, declaration, reaches_of_mem_ancestors hmem, hget, hcarries⟩
  · rintro ⟨carrier, declaration, hreaches, hget, hcarries⟩
    refine ⟨carrier, mem_ancestors_of_reaches hreaches ?_, ?_⟩
    · rw [hget]
      rfl
    · simp [hget, hcarries]

/-- The carrier that is found is a declaration of the table. -/
theorem get?_of_carrier? {carrier : DeclarationId} {declaration : Declaration}
    (h : table.carrier? id mark = some (carrier, declaration)) :
    table.get? carrier = some declaration := by
  rcases List.exists_of_findSome?_eq_some h with ⟨ancestor, _, hfound⟩
  cases hget : table.get? ancestor with
  | none =>
      simp [hget] at hfound
  | some found =>
      simp only [hget] at hfound
      split at hfound
      · cases hfound
        exact hget
      · cases hfound

theorem carrier?_eq_none_iff : table.carrier? id mark = none ↔ ¬table.Inherits id mark := by
  rw [← isTrackable_iff, isTrackable, Option.not_isSome_iff_eq_none]

instance : Decidable (table.Inherits id mark) := decidable_of_iff _ isTrackable_iff

end Table
end AccessorSynthesis
