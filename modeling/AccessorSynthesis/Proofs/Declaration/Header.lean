import Mathlib.Data.List.Sort
import AccessorSynthesis.Proofs.Declaration.Hierarchy
import AccessorSynthesis.Proofs.Declaration.Table

/-!
# Header — what does not depend on members

Accessors are added as members, and little else reads members.  This file defines

* `Declaration.header declaration` — the declaration without its members;
* `Declaration.outline declaration mark` — its supertypes, and whether it carries the annotation;
* `Table.SameOutlines mark start table` — both tables have the same outlines;
* `Table.SameHeaders start table` — up to members, both tables have the same declarations.

The annotation is inherited along outlines (`SameOutlines.inherits_iff`), of which headers tell more
(`SameHeaders.sameOutlines`).  Tables with the same headers compile the same declarations
(`SameHeaders.compiled_ids`).
-/

namespace AccessorSynthesis

open Relation (ReflTransGen)

namespace Declaration

/-- The declaration without its members. -/
def header (declaration : Declaration) : Declaration :=
  { declaration with members := .empty }

/-- What does not depend on members is the same for declarations with the same header. -/
theorem eq_of_header {α : Type} {found declaration : Declaration} (f : Declaration → α)
    (hf : ∀ declaration, f declaration.header = f declaration)
    (hheader : found.header = declaration.header) : f found = f declaration := by
  calc
    f found = f found.header := (hf found).symm
    _ = f declaration.header := congrArg f hheader
    _ = f declaration := hf declaration

end Declaration

/-- All that a declaration has to do with who inherits an annotation. -/
structure Outline where
  superclass : Option DeclarationId
  interfaces : List DeclarationId
  carries : Bool
deriving DecidableEq

/-- The supertypes of a declaration, and whether it carries the annotation. -/
def Declaration.outline (declaration : Declaration) (mark : QualifiedName) : Outline :=
  ⟨declaration.superclass, declaration.interfaces, declaration.carries mark⟩

namespace Table

variable {table start later : Table} {id other : DeclarationId} {declaration : Declaration}
variable {mark : QualifiedName}

/-! ## Outlines -/

/-- Both tables have declarations with the same outlines, under the same numbers. -/
def SameOutlines (mark : QualifiedName) (start table : Table) : Prop :=
  ∀ id, (table.get? id).map (·.outline mark) = (start.get? id).map (·.outline mark)

namespace SameOutlines

theorem symm (h : SameOutlines mark start table) : SameOutlines mark table start :=
  fun id => (h id).symm

theorem exists_get? (h : SameOutlines mark start table) (hget : start.get? id = some declaration) :
    ∃ found, table.get? id = some found ∧ found.outline mark = declaration.outline mark := by
  have hid := h id
  rw [hget] at hid
  exact Option.map_eq_some_iff.1 hid

theorem hasSupertype (h : SameOutlines mark start table) (hsuper : start.HasSupertype id other) :
    table.HasSupertype id other := by
  rcases hsuper with ⟨declaration, hget, hmem⟩
  rcases h.exists_get? hget with ⟨found, hfound, houtline⟩
  have hsupertypes : found.supertypes = declaration.supertypes :=
    congrArg (fun outline : Outline => outline.superclass.toList ++ outline.interfaces) houtline
  exact ⟨found, hfound, hsupertypes ▸ hmem⟩

theorem inherits (h : SameOutlines mark start table) (hmark : start.Inherits id mark) :
    table.Inherits id mark := by
  rcases hmark with ⟨carrier, declaration, hreaches, hget, hcarries⟩
  rcases h.exists_get? hget with ⟨found, hfound, houtline⟩
  have hreaches' : ReflTransGen table.HasSupertype id carrier :=
    ReflTransGen.mono (fun _ _ => h.hasSupertype) id carrier hreaches
  exact ⟨carrier, found, hreaches', hfound, (congrArg Outline.carries houtline).trans hcarries⟩

theorem inherits_iff (h : SameOutlines mark start table) :
    table.Inherits id mark ↔ start.Inherits id mark :=
  ⟨h.symm.inherits, h.inherits⟩

end SameOutlines

theorem sameOutlines_iff : SameOutlines mark start table ↔
    table.declarations.toList.map (·.outline mark)
      = start.declarations.toList.map (·.outline mark) := by
  have hget : ∀ (table : Table) (id : DeclarationId), (table.get? id).map (·.outline mark)
      = (table.declarations.toList.map (·.outline mark))[id]? := by
    intro table id
    rw [List.getElem?_map, Array.getElem?_toList]
    rfl
  constructor
  · intro h
    apply List.ext_getElem?
    intro id
    rw [← hget, ← hget]
    exact h id
  · intro h id
    rw [hget, hget, h]

instance : Decidable (SameOutlines mark start table) := decidable_of_iff _ sameOutlines_iff.symm

/-! ## Headers -/

/-- Up to members, both tables have the same declarations. -/
def SameHeaders (start table : Table) : Prop :=
  ∀ id, (table.get? id).map Declaration.header = (start.get? id).map Declaration.header

namespace SameHeaders

theorem refl (table : Table) : table.SameHeaders table := fun _ => rfl

theorem trans (h : start.SameHeaders table) (h' : table.SameHeaders later) :
    start.SameHeaders later := fun id => (h' id).trans (h id)

theorem symm (h : start.SameHeaders table) : table.SameHeaders start := fun id => (h id).symm

theorem exists_get? (h : start.SameHeaders table) (hget : start.get? id = some declaration) :
    ∃ found, table.get? id = some found ∧ found.header = declaration.header := by
  have hid := h id
  rw [hget] at hid
  exact Option.map_eq_some_iff.1 hid

theorem map_get?_eq {α : Type} (h : start.SameHeaders table) (f : Declaration → α)
    (hf : ∀ declaration, f declaration.header = f declaration) (id : DeclarationId) :
    (table.get? id).map f = (start.get? id).map f := by
  have hsame : f ∘ Declaration.header = f := funext hf
  rw [← hsame, ← Option.map_map, ← Option.map_map, h id]

theorem get?_eq_none (h : start.SameHeaders table) (hget : start.get? id = none) :
    table.get? id = none := by
  have hid := h id
  rw [hget] at hid
  exact Option.map_eq_none_iff.1 hid

theorem idOf?_eq (h : start.SameHeaders table) (name : QualifiedName) :
    table.idOf? name = start.idOf? name := by
  have hnames : table.declarations.map Declaration.name = start.declarations.map Declaration.name := by
    apply Array.ext_getElem?
    intro id
    rw [Array.getElem?_map, Array.getElem?_map]
    exact h.map_get?_eq Declaration.name (fun _ => rfl) id
  have hsearch : ∀ table : Table, table.idOf? name
      = (table.declarations.map Declaration.name).findIdx? (· = name) := by
    intro table
    rw [Array.findIdx?_map]
    rfl
  rw [hsearch, hsearch, hnames]

theorem sameOutlines (h : start.SameHeaders table) (mark : QualifiedName) :
    SameOutlines mark start table :=
  h.map_get?_eq (·.outline mark) fun _ => rfl

theorem inherits_iff (h : start.SameHeaders table) :
    table.Inherits id mark ↔ start.Inherits id mark :=
  (h.sameOutlines mark).inherits_iff

theorem walk_eq (h : start.SameHeaders table) (unvisited : Std.ExtTreeSet DeclarationId)
    (queue : List DeclarationId) : table.walk unvisited queue = start.walk unvisited queue := by
  fun_induction walk start unvisited queue with
  | case1 unvisited =>
      rw [walk]
  | case2 unvisited id queue hpresent supertypes ih =>
      rw [walk, dif_pos hpresent, h.map_get?_eq Declaration.supertypes (fun _ => rfl) id]
      exact congrArg (id :: ·) ih
  | case3 unvisited id queue habsent ih =>
      rw [walk, dif_neg habsent]
      exact ih

theorem ancestors_eq (h : start.SameHeaders table) (id : DeclarationId) :
    table.ancestors id = start.ancestors id := by
  have hids : table.ids = start.ids := by
    apply Std.ExtTreeSet.ext_mem
    intro other
    rw [mem_ids_iff, mem_ids_iff, ← Option.isSome_map, h other, Option.isSome_map]
  unfold ancestors
  rw [hids]
  exact h.walk_eq start.ids [id]

/-- The carrier is the same declaration, so far as its name goes. -/
theorem map_carrier?_eq (h : start.SameHeaders table) (id : DeclarationId) (mark : QualifiedName) :
    (table.carrier? id mark).map (·.2.name) = (start.carrier? id mark).map (·.2.name) := by
  unfold carrier?
  rw [List.map_findSome?, List.map_findSome?, h.ancestors_eq id]
  congr 1
  funext ancestor
  cases hget : start.get? ancestor with
  | none =>
      simp [hget, h.get?_eq_none hget]
  | some declaration =>
      rcases h.exists_get? hget with ⟨found, hfound, hheader⟩
      have hcarries : found.carries mark = declaration.carries mark :=
        Declaration.eq_of_header (Declaration.carries · mark) (fun _ => rfl) hheader
      have hname : found.name = declaration.name :=
        Declaration.eq_of_header Declaration.name (fun _ => rfl) hheader
      by_cases hcarrier : declaration.carries mark = true
      · simp [hget, hfound, hcarries, hcarrier, hname]
      · simp [hget, hfound, hcarries, hcarrier]

theorem exists_compiled (h : start.SameHeaders table) (hmem : (id, declaration) ∈ start.compiled) :
    ∃ found, (id, found) ∈ table.compiled ∧ found.header = declaration.header := by
  rcases mem_compiled_iff.1 hmem with ⟨hget, hcompiled⟩
  rcases h.exists_get? hget with ⟨found, hfound, hheader⟩
  refine ⟨found, mem_compiled_iff.2 ⟨hfound, ?_⟩, hheader⟩
  exact (Declaration.eq_of_header Declaration.isCompiled (fun _ => rfl) hheader).trans hcompiled

theorem compiled_ids_subset (h : start.SameHeaders table) :
    start.compiled.map Prod.fst ⊆ table.compiled.map Prod.fst := by
  intro id hid
  rcases List.mem_map.1 hid with ⟨⟨_, declaration⟩, hmem, rfl⟩
  rcases h.exists_compiled hmem with ⟨found, hfound, _⟩
  exact List.mem_map.2 ⟨_, hfound, rfl⟩

theorem compiled_ids (h : start.SameHeaders table) :
    table.compiled.map Prod.fst = start.compiled.map Prod.fst := by
  -- Both lists are in the order of the numbers, so that they agree if they have the same elements.
  have htable : (table.compiled.map Prod.fst).Pairwise (· < ·) :=
    List.pairwise_map.2 table.pairwise_compiled
  have hstart : (start.compiled.map Prod.fst).Pairwise (· < ·) :=
    List.pairwise_map.2 start.pairwise_compiled
  exact List.Subset.antisymm_of_pairwise htable hstart h.symm.compiled_ids_subset
    h.compiled_ids_subset

/-- The compiled declarations are the same, so far as they do not depend on members. -/
theorem map_compiled {α : Type} (h : start.SameHeaders table) (f : Declaration → α)
    (hf : ∀ declaration, f declaration.header = f declaration) :
    table.compiled.map (fun item => f item.2) = start.compiled.map fun item => f item.2 := by
  have hlisted : ∀ table : Table, (table.compiled.map fun item => f item.2).map some
      = (table.compiled.map Prod.fst).map fun id => (table.get? id).map f := by
    intro table
    rw [List.map_map, List.map_map]
    apply List.map_congr_left
    intro item hitem
    simp [table.get?_of_mem_compiled item hitem]
  apply List.map_injective_iff.2 (Option.some_injective α)
  rw [hlisted, hlisted, h.compiled_ids]
  exact List.map_congr_left fun id _ => h.map_get?_eq f hf id

/-- If a compiled declaration is the last one with its class name, it is the last one still when
members were added. -/
theorem exists_last (h : start.SameHeaders table) (hmem : (id, declaration) ∈ start.compiled)
    (hlast : ∀ later other, (later, other) ∈ start.compiled → id < later →
      other.name.internalName ≠ declaration.name.internalName) :
    ∃ found before after, table.compiled = before ++ (id, found) :: after ∧
      found.header = declaration.header ∧
      ∀ item ∈ after, item.2.name.internalName ≠ found.name.internalName := by
  rcases h.exists_compiled hmem with ⟨found, hfound, hheader⟩
  rcases List.append_of_mem hfound with ⟨before, after, hsplit⟩
  have hname := Declaration.eq_of_header Declaration.name (fun _ => rfl) hheader
  refine ⟨found, before, after, hsplit, hheader, ?_⟩
  -- The items behind this one have higher numbers, and hence other names.
  rintro ⟨later, other⟩ hitem
  have hitems := table.pairwise_compiled
  rw [hsplit] at hitems
  have hlt : id < later :=
    (List.pairwise_cons.1 (List.pairwise_append.1 hitems).2.1).1 (later, other) hitem
  have hlater : (later, other) ∈ table.compiled := by
    rw [hsplit]
    exact List.mem_append_right before (List.mem_cons_of_mem _ hitem)
  rcases h.symm.exists_compiled hlater with ⟨original, horiginal, hsame⟩
  rw [← Declaration.eq_of_header Declaration.name (fun _ => rfl) hsame, hname]
  exact hlast later original horiginal hlt

end SameHeaders

/-! ## Changes that leave headers as they are -/

theorem sameHeaders_of_get? {found : Declaration} (hget : table.get? id = some declaration)
    (hfound : later.get? id = some found) (hheader : found.header = declaration.header)
    (hothers : ∀ other, other ≠ id → table.SameAt later other) : table.SameHeaders later := by
  intro other
  by_cases hother : other = id
  · subst hother
    rw [hfound, hget]
    exact congrArg some hheader
  · rw [(hothers other hother).get?]

theorem sameHeaders_replace {found : Declaration} (hget : table.get? id = some declaration)
    (hheader : found.header = declaration.header) : table.SameHeaders (table.replace id found) :=
  sameHeaders_of_get? hget (get?_replace_self hget found) hheader
    fun _ hother => sameAt_replace hother found

theorem Registered.sameHeaders {accessor : Accessor}
    (h : table.Registered declaration accessor later)
    (hget : table.get? accessor.owner = some declaration) : table.SameHeaders later :=
  sameHeaders_of_get? hget h.get?_owner rfl h.others

end Table
end AccessorSynthesis
