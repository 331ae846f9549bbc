import Mathlib
import AccessorSynthesis.Proofs.Synthesis.Coherence

/-!
# Stability — decisions about accessors, once made, stand

Declarations and members may be added at any time, also supertypes that were missing so far, and
visits by any configurations come in between.  This file defines

* `Declaration.IsUnfit declaration name` — the declaration has no room for an accessor of that name;
* `Table.Change.IsRegular` — the change decides nothing but by a visit;
* `Table.Decides table id change later` — all that a regular change can decide about a declaration;
* `Table.Unambiguous table` — no declaration has an accessor and was refused one as well;
* `Table.DecisionsStand table` — what is decided in the table holds in all that come about from it.

Visits decide about undecided declarations only, so that regular changes leave no declaration with
two decisions (`Unambiguous.after`).  An accessor is kept by every change, a refusal by every regular
one, and a later visit returns what it finds (`decisionsStand_afterAll`).
-/

namespace AccessorSynthesis

/-- The declaration has no room for an accessor of that name. -/
def Declaration.IsUnfit (declaration : Declaration) (name : String) : Prop :=
  declaration.shape.IsRestricted ∨ (declaration.members.find? name).isSome = true

namespace Table

variable {table later : Table} {id : DeclarationId} {declaration : Declaration} {change : Change}

/-! ## Decisions -/

/-- The change neither registers nor refuses an accessor, other than by a visit. -/
def Change.IsRegular : Change → Prop
  | .register _ | .reject _ => False
  | .add _ | .addMember _ _ _ | .synthesize _ _ => True

/-- All that a regular change can decide about a declaration. -/
inductive Decides (table : Table) (id : DeclarationId) : Change → Table → Prop where
  | nothing {change : Change} {later : Table} (haccessor : later.accessor? id = table.accessor? id)
      (hrejected : later.isRejected id = table.isRejected id) : Decides table id change later
  | refused {config : Configuration} {declaration : Declaration} {later : Table}
      (hunsettled : table.Unsettled id declaration) (hmark : table.Inherits id config.mark)
      (hunfit : declaration.IsUnfit config.accessorName) (hnone : later.accessor? id = none) :
      Decides table id (.synthesize config id) later
  | granted {config : Configuration} {later : Table} (hrejected : later.isRejected id = false) :
      Decides table id (.synthesize config id) later

theorem Decides.of_sameAt (h : table.SameAt later id) : table.Decides id change later :=
  .nothing h.accessor? h.isRejected

theorem decides_of_visited {config : Configuration} {visited : DeclarationId}
    {found : List Message} (h : config.Visited table visited later found) (id : DeclarationId) :
    table.Decides id (.synthesize config visited) later := by
  by_cases hid : id = visited
  case neg =>
    exact .of_sameAt (h.sameAt hid)
  subst hid
  cases h with
  | passed hsettled =>
      exact .of_sameAt (.refl table id)
  | unmarked declaration hunsettled hmark =>
      exact .of_sameAt (.refl table id)
  | unsupported declaration hunsettled hmark hshape =>
      exact .refused hunsettled hmark (Or.inl hshape) hunsettled.accessor?
  | nameTaken declaration member hunsettled hmark hshape hmember =>
      exact .refused hunsettled hmark (Or.inr (Option.isSome_of_eq_some hmember)) hunsettled.accessor?
  | granted declaration later hunsettled hmark hshape hfree hlater =>
      exact .granted ((hlater.isRejected id).trans hunsettled.isRejected)

theorem decides_after (hregular : change.IsRegular) (table : Table) (id : DeclarationId) :
    table.Decides id change (table.after change) := by
  cases change with
  | add declaration =>
      simp only [after]
      split
      · rename_i hlater
        exact .nothing ((add_cases hlater).2.2.1 id) (isRejected_of_add hlater id)
      · exact .of_sameAt (.refl table id)
  | addMember changed name member =>
      rcases table.cases_after_addMember changed name member with hsame | ⟨_, _, _, hadded⟩
      · rw [hsame]
        exact .of_sameAt (.refl table id)
      · rw [hadded]
        exact .nothing rfl rfl
  | register accessor | reject rejected =>
      exact hregular.elim
  | synthesize config visited =>
      exact decides_of_visited (config.visited_synthesize table visited) id

/-! ## Decisions that stand -/

/-- No declaration has an accessor and was refused one as well. -/
def Unambiguous (table : Table) : Prop :=
  ∀ id, table.isRejected id = true → table.accessor? id = none

theorem Unambiguous.after (h : table.Unambiguous) (hregular : change.IsRegular) :
    (table.after change).Unambiguous := by
  intro id hlater
  have hdecides := decides_after hregular table id
  generalize table.after change = later at hdecides hlater ⊢
  cases hdecides with
  | nothing haccessor hrejected =>
      exact haccessor.trans (h id (hrejected.symm.trans hlater))
  | refused hunsettled hmark hunfit hnone =>
      exact hnone
  | granted hrejected =>
      rw [hrejected] at hlater
      cases hlater

theorem Unambiguous.afterAll (h : table.Unambiguous) {changes : List Change}
    (hregular : ∀ change ∈ changes, change.IsRegular) : (table.afterAll changes).Unambiguous := by
  induction changes generalizing table with
  | nil =>
      exact h
  | cons change changes ih =>
      exact ih (h.after (hregular change List.mem_cons_self))
        fun other hother => hregular other (List.mem_cons_of_mem change hother)

/-- A declaration is refused an accessor only where it is trackable and has no room for one. -/
theorem exists_unfit_of_isRejected (hregular : change.IsRegular)
    (hbefore : table.isRejected id = false) (hlater : (table.after change).isRejected id = true) :
    ∃ config declaration, change = .synthesize config id ∧ table.get? id = some declaration ∧
      table.Inherits id config.mark ∧ declaration.IsUnfit config.accessorName := by
  have hdecides := decides_after hregular table id
  generalize table.after change = later at hdecides hlater
  cases hdecides with
  | nothing haccessor hrejected =>
      rw [hrejected, hbefore] at hlater
      cases hlater
  | @refused config declaration _ hunsettled hmark hunfit hnone =>
      exact ⟨config, declaration, rfl, hunsettled.get?, hmark, hunfit⟩
  | granted hrejected =>
      rw [hrejected] at hlater
      cases hlater

/-- What is decided in the table holds in all tables that come about from it, and each decision is
made for its reasons. -/
structure DecisionsStand (table : Table) : Prop where
  registers : ∀ config id accessor events,
    Configuration.examine config table id = (.grant accessor, events) →
    ∃ later, table.register accessor = .ok later
  carrier : ∀ id mark carrier declaration, table.carrier? id mark = some (carrier, declaration) →
    table.get? carrier = some declaration
  unambiguous : ∀ id, ¬(table.isRejected id = true ∧ (table.accessor? id).isSome = true)
  granted : ∀ config id accessor later further,
    (Configuration.synthesize config table id).accessor = some accessor →
    later = (config.synthesize table id).table.afterAll further →
    ∀ visitor : Configuration, visitor.enabled = true →
      visitor.synthesize later id = ⟨later, some accessor, []⟩
  refused : ∀ id later further, table.isRejected id = true →
    (∀ change ∈ further, Change.IsRegular change) → later = table.afterAll further →
    later.accessor? id = none ∧
      ∀ visitor : Configuration, visitor.synthesize later id = ⟨later, none, []⟩
  reasons : ∀ change id, Change.IsRegular change → table.isRejected id = false →
    (table.after change).isRejected id = true →
    ∃ config declaration, change = .synthesize config id ∧ table.get? id = some declaration ∧
      table.Inherits id config.mark ∧ declaration.IsUnfit config.accessorName

theorem Unambiguous.decisionsStand (h : table.Unambiguous) : table.DecisionsStand where
  registers := by
    intro config id accessor events hexamine
    rcases Configuration.exists_registered_of_grant hexamine with ⟨later, _, hlater, _⟩
    exact ⟨later, hlater⟩
  carrier := fun _ _ _ _ => get?_of_carrier?
  unambiguous := by
    rintro id ⟨hrejected, haccessor⟩
    rw [h id hrejected] at haccessor
    cases haccessor
  granted := by
    rintro config id accessor _ further haccessor rfl visitor henabled
    have hthen := Configuration.accessor?_of_synthesize haccessor
    have hlater := (keepsAt_afterAll _ further id).accessor? accessor hthen
    exact Configuration.synthesize_of_accessor? henabled hlater
  refused := by
    rintro id _ further hrejected hregular rfl
    have hlater := (keepsAt_afterAll table further id).isRejected hrejected
    have hnone := h.afterAll hregular id hlater
    exact ⟨hnone, fun _ => Configuration.synthesize_of_isRejected hnone hlater⟩
  reasons := fun _ _ => exists_unfit_of_isRejected

/-- From a table in which no declaration was refused an accessor, regular changes lead only to
tables in which all decisions stand. -/
theorem decisionsStand_afterAll {start : Table} (hstart : ∀ id, start.isRejected id = false)
    {changes : List Change} (hregular : ∀ change ∈ changes, change.IsRegular) :
    (start.afterAll changes).DecisionsStand := by
  have hunambiguous : start.Unambiguous := by
    intro id hrejected
    rw [hstart id] at hrejected
    cases hrejected
  exact (hunambiguous.afterAll hregular).decisionsStand

/-! ## A supertype that comes late -/

/-- A class whose superclass is not there yet. -/
def orphan : Declaration :=
  ⟨⟨"a.Leaf"⟩, .plainClass, false, false, [], some 1, [], .empty, some ⟨0, 4, 0⟩⟩

/-- The superclass, which carries the annotation and cannot have an accessor itself. -/
def lateParent : Declaration :=
  ⟨⟨"a.Base"⟩, .wrapper, true, false, [.ofName Configuration.standard.mark], none, [], .empty, none⟩

/-- Visits before and after the superclass is there, also of a declaration that never is. -/
def lateChanges : List Change :=
  [.synthesize .standard 0, .add lateParent, .synthesize .standard 7, .synthesize .standard 0,
    .synthesize .standard 1]

theorem decisionsStand_lateChanges :
    ((⟨#[orphan], ∅, ∅⟩ : Table).afterAll lateChanges).DecisionsStand ∧
      ((⟨#[orphan], ∅, ∅⟩ : Table).afterAll lateChanges).accessor? 0
        = some ⟨0, "track", "Leaf", .ofList [.pub, .synthetic, .final]⟩ ∧
      ((⟨#[orphan], ∅, ∅⟩ : Table).afterAll lateChanges).isRejected 1 = true := by
  have hstart : ∀ id, (⟨#[orphan], ∅, ∅⟩ : Table).isRejected id = false :=
    fun _ => decide_eq_false Std.ExtTreeSet.not_mem_empty
  have hregular : ∀ change ∈ lateChanges, change.IsRegular := by
    simp [lateChanges, Change.IsRegular]
  exact ⟨decisionsStand_afterAll hstart hregular, by cbv, by cbv⟩

end Table
end AccessorSynthesis
