import AccessorSynthesis.Proofs.Declaration.BreadthFirst
import AccessorSynthesis.Proofs.Declaration.Table

/-!
# Carrier — who inherits an annotation, and from where

An annotation is passed on from supertypes to those below them.  On hierarchies with cycles this rule
alone does not say who has it, and the least predicate that obeys the rule is meant.  This file defines

* `Table.PassesOn table mark tracked id` — the rule: the declaration carries the annotation itself, or
  one of its supertypes is tracked;
* `Table.IsNearest table id mark carrier declaration` — the declaration carries the annotation, and
  none that does so is nearer to `id`;
* `Table.HasAll table later` — `later` has all declarations of `table`;
* `Table.Tracks table mark` — being trackable is that predicate, the carrier that is found is a nearest
  one, and both last when declarations are added.

The search stops at the first carrier in a list that is ordered by distance, which is why it finds a
nearest one (`isNearest_of_carrier?`).
-/

namespace AccessorSynthesis
namespace Table

open Relation (ReflTransGen)

variable {table later : Table} {id other carrier new : DeclarationId} {declaration : Declaration}
variable {mark : QualifiedName} {tracked : DeclarationId → Prop} {m n : Nat}

/-! ## The rule -/

/-- The declaration exists, and it carries the annotation itself or has a direct supertype that exists
and is tracked. -/
def PassesOn (table : Table) (mark : QualifiedName) (tracked : DeclarationId → Prop)
    (id : DeclarationId) : Prop :=
  ∃ declaration, table.get? id = some declaration ∧
    (declaration.carries mark = true ∨
      ∃ other ∈ declaration.supertypes, (table.get? other).isSome = true ∧ tracked other)

/-- Whoever inherits an annotation exists. -/
theorem Inherits.isSome_get? (h : table.Inherits id mark) : (table.get? id).isSome = true := by
  rcases h with ⟨carrier, declaration, hreaches, hget, _⟩
  -- The path is empty, so that it ends where it starts, or its first edge leaves a declaration.
  rcases ReflTransGen.cases_head hreaches with rfl | ⟨_, ⟨found, hfound, _⟩, _⟩
  · simp [hget]
  · simp [hfound]

theorem inherits_iff_passesOn :
    table.Inherits id mark ↔ table.PassesOn mark (fun other => table.Inherits other mark) id := by
  constructor
  · rintro ⟨carrier, declaration, hreaches, hget, hcarries⟩
    rcases ReflTransGen.cases_head hreaches with rfl | ⟨other, ⟨found, hfound, hmem⟩, hrest⟩
    · exact ⟨declaration, hget, Or.inl hcarries⟩
    · have hother : table.Inherits other mark := ⟨carrier, declaration, hrest, hget, hcarries⟩
      exact ⟨found, hfound, Or.inr ⟨other, hmem, hother.isSome_get?, hother⟩⟩
  · rintro ⟨declaration, hget, hcarries | ⟨other, hmem, _, hother⟩⟩
    · exact ⟨id, declaration, ReflTransGen.refl, hget, hcarries⟩
    · exact hother.of_hasSupertype ⟨declaration, hget, hmem⟩

/-- Whatever obeys the rule holds of all that inherit the annotation. -/
theorem Inherits.of_passesOn (h : table.Inherits id mark)
    (hrule : ∀ id, table.PassesOn mark tracked id → tracked id) : tracked id := by
  rcases h with ⟨carrier, declaration, hreaches, hget, hcarries⟩
  -- The induction goes from the carrier down the path.
  induction hreaches using ReflTransGen.head_induction_on with
  | refl =>
      exact hrule carrier ⟨declaration, hget, Or.inl hcarries⟩
  | @head id other hedge hrest ih =>
      have hother : table.Inherits other mark := ⟨carrier, declaration, hrest, hget, hcarries⟩
      rcases hedge with ⟨found, hfound, hmem⟩
      exact hrule id ⟨found, hfound, Or.inr ⟨other, hmem, hother.isSome_get?, ih⟩⟩

/-! ## The nearest carrier -/

/-- The declaration is reached and carries the annotation, and none that does so is nearer. -/
structure IsNearest (table : Table) (id : DeclarationId) (mark : QualifiedName)
    (carrier : DeclarationId) (declaration : Declaration) : Prop where
  get? : table.get? carrier = some declaration
  carries : declaration.carries mark = true
  nearest : ∃ n, table.IsDistance id carrier n ∧ ∀ other found, table.get? other = some found →
    found.carries mark = true → ∀ m, table.ReachesIn id m other → n ≤ m

theorem ReachesIn.reflTransGen (h : table.ReachesIn id n other) :
    ReflTransGen table.HasSupertype id other := by
  induction h with
  | self =>
      exact ReflTransGen.refl
  | step _ hedge ih =>
      exact ih.tail hedge

theorem IsDistance.unique (h : table.IsDistance id other m) (h' : table.IsDistance id other n) :
    m = n :=
  Nat.le_antisymm (h.least n h'.reaches) (h'.least m h.reaches)

theorem isNearest_of_carrier? (h : table.carrier? id mark = some (carrier, declaration)) :
    table.IsNearest id mark carrier declaration := by
  have hget := get?_of_carrier? h
  rcases List.findSome?_eq_some_iff.1 h with ⟨nearer, first, farther, hlist, hfound, hnone⟩
  -- The search stopped at the carrier, and passed over nothing that carries the annotation.
  have hfirst : first = carrier ∧ declaration.carries mark = true := by
    cases hget' : table.get? first with
    | none =>
        simp [hget'] at hfound
    | some found =>
        by_cases hcarries : found.carries mark = true
        · simp only [hget', hcarries, if_true, Option.some.injEq, Prod.mk.injEq] at hfound
          exact ⟨hfound.1, hfound.2 ▸ hcarries⟩
        · simp [hget', hcarries] at hfound
  rcases hfirst with ⟨rfl, hcarries⟩
  have hmem : first ∈ table.ancestors id := by
    simp [hlist]
  rcases exists_level_of_mem_ancestors hmem with ⟨n, hlevel⟩
  have hdistance := (mem_level_iff.1 hlevel).2
  refine ⟨hget, hcarries, n, hdistance, ?_⟩
  intro other found hother hcarries' m hpath
  have hordered := table.pairwise_ancestors id
  have hreached : other ∈ table.ancestors id :=
    mem_ancestors_iff.2 ⟨by simp [hother], hpath.reflTransGen⟩
  rw [hlist, List.pairwise_append, List.pairwise_cons] at hordered
  rw [hlist, List.mem_append, List.mem_cons] at hreached
  rcases hreached with hnearer | rfl | hfarther
  · have hpassed := hnone other hnearer
    simp [hother, hcarries'] at hpassed
  · exact hdistance.least m hpath
  · rcases hordered.2.1.1 other hfarther with ⟨near, far, hnear, hfar, hle⟩
    calc
      n = near := hdistance.unique hnear
      _ ≤ far := hle
      _ ≤ m := hfar.least m hpath

/-! ## More declarations -/

/-- The later table has all declarations of the table, unchanged. -/
def HasAll (table later : Table) : Prop :=
  ∀ id declaration, table.get? id = some declaration → later.get? id = some declaration

theorem hasAll_of_add (h : table.add declaration = .ok (new, later)) : table.HasAll later := by
  rcases add_cases h with ⟨rfl, _, _, hothers⟩
  intro id found hget
  -- The new declaration comes behind those of the table.
  have hid : id ≠ table.size := by
    rintro rfl
    simp [get?_size] at hget
  exact (hothers id hid).get?.trans hget

namespace HasAll

theorem hasSupertype (h : table.HasAll later) (hedge : table.HasSupertype id other) :
    later.HasSupertype id other := by
  rcases hedge with ⟨declaration, hget, hmem⟩
  exact ⟨declaration, h id declaration hget, hmem⟩

theorem reachesIn (h : table.HasAll later) (hpath : table.ReachesIn id n other) :
    later.ReachesIn id n other := by
  induction hpath with
  | self =>
      exact .self
  | step _ hedge ih =>
      exact ih.step (h.hasSupertype hedge)

theorem inherits (h : table.HasAll later) (hmark : table.Inherits id mark) :
    later.Inherits id mark := by
  rcases hmark with ⟨carrier, declaration, hreaches, hget, hcarries⟩
  have hreaches' : ReflTransGen later.HasSupertype id carrier :=
    ReflTransGen.mono (fun _ _ => h.hasSupertype) id carrier hreaches
  exact ⟨carrier, declaration, hreaches', h carrier declaration hget, hcarries⟩

/-- More declarations may bring a carrier nearer, and bring none farther away. -/
theorem exists_carrier? (h : table.HasAll later)
    (hcarrier : table.carrier? id mark = some (carrier, declaration))
    (hdistance : table.IsDistance id carrier n) :
    ∃ carrier' declaration' m, later.carrier? id mark = some (carrier', declaration') ∧
      later.IsDistance id carrier' m ∧ m ≤ n := by
  have hnearest := isNearest_of_carrier? hcarrier
  have hmarked : later.isTrackable id mark = true :=
    isTrackable_iff.2 (h.inherits (isTrackable_iff.1 (by simp [isTrackable, hcarrier])))
  rcases Option.isSome_iff_exists.1 hmarked with ⟨⟨carrier', declaration'⟩, hcarrier'⟩
  rcases (isNearest_of_carrier? hcarrier').nearest with ⟨m, hdistance', hleast⟩
  refine ⟨carrier', declaration', m, hcarrier', hdistance', ?_⟩
  -- The earlier carrier is still reached by the same path.
  exact hleast carrier declaration (h carrier declaration hnearest.get?) hnearest.carries n
    (h.reachesIn hdistance.reaches)

end HasAll

/-! ## Tracking -/

/-- Being trackable is the least predicate that obeys the rule.  Whoever is trackable is so because of
a nearest carrier, and remains it, with a carrier no farther away, when a declaration is added. -/
structure Tracks (table : Table) (mark : QualifiedName) : Prop where
  rule : ∀ id, table.isTrackable id mark = true ↔
    table.PassesOn mark (fun other => table.isTrackable other mark = true) id
  least : ∀ tracked : DeclarationId → Prop, (∀ id, table.PassesOn mark tracked id → tracked id) →
    ∀ id, table.isTrackable id mark = true → tracked id
  unmarked : ∀ cycle : DeclarationId → Prop,
    (∀ id declaration, cycle id → table.get? id = some declaration →
      declaration.carries mark = false ∧
        ∀ other ∈ declaration.supertypes, (table.get? other).isSome = true → cycle other) →
    ∀ id, cycle id → table.isTrackable id mark = false
  found : ∀ id, table.isTrackable id mark = true ↔
    ∃ carrier declaration, table.carrier? id mark = some (carrier, declaration)
  nearest : ∀ id carrier declaration, table.carrier? id mark = some (carrier, declaration) →
    table.IsNearest id mark carrier declaration
  lasts : ∀ added new later, table.add added = .ok (new, later) →
    ∀ id, table.isTrackable id mark = true → later.isTrackable id mark = true
  nears : ∀ added new later, table.add added = .ok (new, later) →
    ∀ id carrier declaration n, table.carrier? id mark = some (carrier, declaration) →
      table.IsDistance id carrier n →
      ∃ carrier' declaration' m, later.carrier? id mark = some (carrier', declaration') ∧
        later.IsDistance id carrier' m ∧ m ≤ n

theorem tracks (table : Table) (mark : QualifiedName) : table.Tracks mark where
  rule := by
    simp only [isTrackable_iff]
    exact fun _ => inherits_iff_passesOn
  least := fun _ hrule _ h => (isTrackable_iff.1 h).of_passesOn hrule
  unmarked := by
    intro cycle hcycle id hid
    -- What is outside the cycle obeys the rule.
    have houtside : ∀ id, table.PassesOn mark (fun other => ¬cycle other) id → ¬cycle id := by
      rintro id ⟨declaration, hget, hcarries | ⟨other, hmem, hexists, hother⟩⟩ hid
      · simp [(hcycle id declaration hid hget).1] at hcarries
      · exact hother ((hcycle id declaration hid hget).2 other hmem hexists)
    by_contra h
    have hmarked : table.Inherits id mark := isTrackable_iff.1 (by simpa using h)
    exact hmarked.of_passesOn houtside hid
  found := by
    intro id
    simp [isTrackable, Option.isSome_iff_exists]
  nearest := fun _ _ _ => isNearest_of_carrier?
  lasts := fun _ _ _ hadd _ h =>
    isTrackable_iff.2 ((hasAll_of_add hadd).inherits (isTrackable_iff.1 h))
  nears := fun _ _ _ hadd _ _ _ _ => (hasAll_of_add hadd).exists_carrier?

end Table
end AccessorSynthesis
