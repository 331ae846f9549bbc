import AccessorSynthesis.Proofs.Synthesis.Visit

/-!
# Coherence — what no change of a table destroys

A table is changed in five ways, each of which may be refused.  This file defines

* `Table.Change` — one change, `Table.after` and `Table.afterAll` — the table that changes leave;
* `Table.Changed table later` — all that one change can do to a table;
* `Table.KeepsAt table later id` — what the table says of the declaration still holds in the later
  one;
* `Table.Coherent table` — names lead to their declarations, and accessors to members of their
  owners.

A change only ever adds (`Changed.keepsAt`), and what it adds fits what is there
(`Changed.coherent`).  Both carry over to sequences of changes, in `coherent_afterAll`.
-/

namespace AccessorSynthesis

/-! ## Declarations that go on -/

namespace Declaration

variable {declaration found last : Declaration} {id : DeclarationId} {accessor : Accessor}

/-- Both are one declaration, which may have got further members behind those it had. -/
structure Continues (declaration found : Declaration) : Prop where
  header : found.header = declaration.header
  members : declaration.members.entries <+: found.members.entries

theorem Continues.refl (declaration : Declaration) : declaration.Continues declaration :=
  ⟨rfl, List.prefix_rfl⟩

theorem Continues.trans (h : declaration.Continues found) (h' : found.Continues last) :
    declaration.Continues last :=
  ⟨h'.header.trans h.header, h.members.trans h'.members⟩

theorem continues_withMember (declaration : Declaration) (name : String) (member : Member) :
    declaration.Continues (declaration.withMember name member) :=
  ⟨rfl, List.prefix_append _ _⟩

theorem Continues.find?_members {name : String} {member : Member} (h : declaration.Continues found)
    (hmember : declaration.members.find? name = some member) :
    found.members.find? name = some member := by
  rcases h.members with ⟨added, hadded⟩
  unfold Keyed.find? at hmember ⊢
  rw [← hadded, List.lookup_append, hmember]
  rfl

theorem Continues.isGenerated {name : String} (h : declaration.Continues found)
    (hgenerated : declaration.isGenerated name = true) : found.isGenerated name = true := by
  unfold Declaration.isGenerated at hgenerated ⊢
  cases hmember : declaration.members.find? name with
  | none =>
      rw [hmember] at hgenerated
      cases hgenerated
  | some member =>
      rw [h.find?_members hmember, ← hmember]
      exact hgenerated

/-- The accessor is that of the declaration with that number, and one of its members. -/
structure Bears (declaration : Declaration) (id : DeclarationId) (accessor : Accessor) : Prop where
  owner : accessor.owner = id
  member : declaration.members.find? accessor.name
    = some ⟨accessor.flags, Table.accessorType, declaration.span⟩

theorem Bears.continues (h : declaration.Bears id accessor) (hfound : declaration.Continues found) :
    found.Bears id accessor where
  owner := h.owner
  member := by
    rw [eq_of_header Declaration.span (fun _ => rfl) hfound.header]
    exact hfound.find?_members h.member

theorem bears_withAccessor (hfree : declaration.members.find? accessor.name = none) :
    (declaration.withAccessor accessor).Bears accessor.owner accessor where
  owner := rfl
  member := Keyed.find?_append_self hfree _

end Declaration

namespace Table

variable {table later last : Table} {id : DeclarationId} {declaration : Declaration}

/-! ## Changes -/

/-- One change of a table. -/
inductive Change where
  | add (declaration : Declaration)
  | addMember (id : DeclarationId) (name : String) (member : Member)
  | register (accessor : Accessor)
  | reject (id : DeclarationId)
  | synthesize (config : Configuration) (id : DeclarationId)

/-- The table that a change leaves.  A change that is refused leaves the table as it was. -/
def after (table : Table) : Change → Table
  | .add declaration =>
      match table.add declaration with
      | .ok (_, later) => later
      | .error _ => table
  | .addMember id name member =>
      match table.addMember id name member with
      | .ok later => later
      | .error _ => table
  | .register accessor =>
      match table.register accessor with
      | .ok later => later
      | .error _ => table
  | .reject id => table.reject id
  | .synthesize config id => (config.synthesize table id).table

/-- The table that a sequence of changes leaves. -/
def afterAll (table : Table) (changes : List Change) : Table := changes.foldl after table

/-- A member is added, unless it has no declaration or its name is taken. -/
theorem cases_after_addMember (table : Table) (id : DeclarationId) (name : String)
    (member : Member) :
    table.after (.addMember id name member) = table ∨
      ∃ declaration, table.get? id = some declaration ∧ declaration.members.find? name = none ∧
        table.after (.addMember id name member)
          = table.replace id (declaration.withMember name member) := by
  simp only [after]
  split
  · rename_i hlater
    exact Or.inr (addMember_eq_ok_iff.1 hlater)
  · exact Or.inl rfl

/-- All that one change can do to a table. -/
inductive Changed (table : Table) : Table → Prop where
  | unchanged : Changed table table
  | declared {declaration : Declaration} {id : DeclarationId} {later : Table}
      (hlater : table.add declaration = .ok (id, later)) : Changed table later
  | memberAdded {id : DeclarationId} {declaration : Declaration} {name : String} {member : Member}
      (hget : table.get? id = some declaration) (hfree : declaration.members.find? name = none) :
      Changed table (table.replace id (declaration.withMember name member))
  | registered {declaration : Declaration} {accessor : Accessor} {later : Table}
      (hget : table.get? accessor.owner = some declaration)
      (hnone : table.accessor? accessor.owner = none)
      (hfree : declaration.members.find? accessor.name = none)
      (hlater : table.Registered declaration accessor later) : Changed table later
  | rejected (id : DeclarationId) : Changed table (table.reject id)

theorem changed_of_visited {config : Configuration} {found : List Message}
    (h : config.Visited table id later found) : table.Changed later := by
  cases h with
  | passed hsettled =>
      exact .unchanged
  | unmarked declaration hunsettled hmark =>
      exact .unchanged
  | unsupported declaration hunsettled hmark hshape =>
      exact .rejected id
  | nameTaken declaration member hunsettled hmark hshape hmember =>
      exact .rejected id
  | granted declaration later hunsettled hmark hshape hfree hlater =>
      exact .registered hunsettled.get? hunsettled.accessor? hfree hlater

theorem changed_after (table : Table) (change : Change) : table.Changed (table.after change) := by
  cases change with
  | add declaration =>
      simp only [after]
      split
      · rename_i hlater
        exact .declared hlater
      · exact .unchanged
  | addMember id name member =>
      rcases table.cases_after_addMember id name member with hsame | ⟨_, hget, hfree, hadded⟩
      · rw [hsame]
        exact .unchanged
      · rw [hadded]
        exact .memberAdded hget hfree
  | register accessor =>
      simp only [after]
      split
      · rename_i hlater
        rcases register_cases hlater with ⟨declaration, hget, hnone, hfree, hregistered⟩
        exact .registered hget hnone hfree hregistered
      · exact .unchanged
  | reject id =>
      exact .rejected id
  | synthesize config id =>
      exact changed_of_visited (config.visited_synthesize table id)

/-! ## What is kept -/

/-- What the table says of the declaration still holds in the later one, but for further members. -/
structure KeepsAt (table later : Table) (id : DeclarationId) : Prop where
  get? : ∀ declaration, table.get? id = some declaration →
    ∃ found, later.get? id = some found ∧ declaration.Continues found
  accessor? : ∀ accessor, table.accessor? id = some accessor → later.accessor? id = some accessor
  isRejected : table.isRejected id = true → later.isRejected id = true

theorem KeepsAt.of_sameAt (h : table.SameAt later id) : table.KeepsAt later id where
  get? := fun declaration hget => ⟨declaration, h.get?.trans hget, .refl declaration⟩
  accessor? := fun _ haccessor => h.accessor?.trans haccessor
  isRejected := h.isRejected.trans

theorem KeepsAt.trans (h : table.KeepsAt later id) (h' : later.KeepsAt last id) :
    table.KeepsAt last id where
  get? := by
    intro declaration hget
    rcases h.get? declaration hget with ⟨found, hfound, hcontinues⟩
    rcases h'.get? found hfound with ⟨next, hnext, hcontinues'⟩
    exact ⟨next, hnext, hcontinues.trans hcontinues'⟩
  accessor? := fun accessor haccessor => h'.accessor? accessor (h.accessor? accessor haccessor)
  isRejected := fun hrejected => h'.isRejected (h.isRejected hrejected)

/-- A change concerns one declaration, of which it keeps all that there was. -/
theorem Changed.keepsAt (h : table.Changed later) (id : DeclarationId) :
    table.KeepsAt later id := by
  cases h with
  | unchanged =>
      exact .of_sameAt (.refl table id)
  | @declared declaration added _ hlater =>
      rcases add_cases hlater with ⟨rfl, hnew, haccessors, hothers⟩
      by_cases hid : id = table.size
      · subst hid
        refine ⟨?_, fun _ h => (haccessors _).trans h, (isRejected_of_add hlater _).trans⟩
        intro found hfound
        rw [get?_size] at hfound
        cases hfound
      · exact .of_sameAt (hothers id hid)
  | @memberAdded changed declaration name member hget hfree =>
      by_cases hid : id = changed
      · subst hid
        refine ⟨?_, fun _ h => h, fun h => h⟩
        intro found hfound
        rw [hget] at hfound
        cases hfound
        exact ⟨_, get?_replace_self hget _, declaration.continues_withMember name member⟩
      · exact .of_sameAt (sameAt_replace hid _)
  | @registered declaration accessor _ hget hnone hfree hlater =>
      by_cases hid : id = accessor.owner
      · subst hid
        refine ⟨?_, ?_, (hlater.isRejected _).trans⟩
        · intro found hfound
          rw [hget] at hfound
          cases hfound
          exact ⟨_, hlater.get?_owner, declaration.continues_withMember _ _⟩
        · intro other hother
          rw [hnone] at hother
          cases hother
      · exact .of_sameAt (hlater.others id hid)
  | rejected changed =>
      by_cases hid : id = changed
      · subst hid
        exact ⟨fun declaration hget => ⟨declaration, hget, .refl declaration⟩, fun _ h => h,
          fun _ => table.isRejected_reject_self id⟩
      · exact .of_sameAt (sameAt_reject hid)

theorem keepsAt_afterAll (table : Table) (changes : List Change) (id : DeclarationId) :
    table.KeepsAt (table.afterAll changes) id := by
  induction changes generalizing table with
  | nil =>
      exact .of_sameAt (.refl table id)
  | cons change changes ih =>
      exact ((changed_after table change).keepsAt id).trans (ih (table.after change))

/-! ## Coherence -/

/-- Names lead to their declarations, and accessors to members of their owners. -/
structure Coherent (table : Table) : Prop where
  idOf? : ∀ id declaration, table.get? id = some declaration →
    table.idOf? declaration.name = some id
  accessors : ∀ id accessor, table.accessor? id = some accessor →
    ∃ declaration, table.get? id = some declaration ∧ declaration.Bears id accessor

theorem Coherent.idOf?_of_add (h : table.Coherent) {added : DeclarationId}
    (hlater : table.add declaration = .ok (added, later)) {found : Declaration}
    (hfound : later.get? id = some found) : later.idOf? found.name = some id := by
  rcases add_cases hlater with ⟨rfl, hnew, -, hothers⟩
  rcases Table.idOf?_of_add hlater with ⟨hfree, hsearch⟩
  rw [hsearch]
  by_cases hid : id = table.size
  · subst hid
    rw [hnew] at hfound
    cases hfound
    rw [hfree, if_pos rfl]
    rfl
  · have hold := h.idOf? id found ((hothers id hid).get?.symm.trans hfound)
    rw [hold]
    rfl

theorem Coherent.idOf?_of_sameHeaders (h : table.Coherent) (hlater : table.SameHeaders later)
    {found : Declaration} (hfound : later.get? id = some found) :
    later.idOf? found.name = some id := by
  rcases hlater.symm.exists_get? hfound with ⟨declaration, hget, hheader⟩
  rw [hlater.idOf?_eq, ← Declaration.eq_of_header Declaration.name (fun _ => rfl) hheader]
  exact h.idOf? id declaration hget

/-- An accessor that was there before the change still belongs to a member of its owner. -/
theorem Coherent.accessor_of_changed (h : table.Coherent) (hlater : table.Changed later)
    (id : DeclarationId) (accessor : Accessor) (haccessor : table.accessor? id = some accessor) :
    ∃ found, later.get? id = some found ∧ found.Bears id accessor := by
  rcases h.accessors id accessor haccessor with ⟨declaration, hget, hbears⟩
  rcases (hlater.keepsAt id).get? declaration hget with ⟨found, hfound, hcontinues⟩
  exact ⟨found, hfound, hbears.continues hcontinues⟩

theorem Changed.coherent (h : table.Changed later) (htable : table.Coherent) : later.Coherent := by
  have hold := htable.accessor_of_changed h
  cases h with
  | unchanged =>
      exact htable
  | declared hlater =>
      refine ⟨fun _ _ => htable.idOf?_of_add hlater, ?_⟩
      intro id accessor haccessor
      rw [(add_cases hlater).2.2.1] at haccessor
      exact hold id accessor haccessor
  | @memberAdded id declaration name member hget hfree =>
      have hheaders : table.SameHeaders (table.replace id (declaration.withMember name member)) :=
        sameHeaders_replace hget rfl
      exact ⟨fun _ _ => htable.idOf?_of_sameHeaders hheaders, hold⟩
  | @registered declaration accessor _ hget hnone hfree hlater =>
      refine ⟨fun _ _ => htable.idOf?_of_sameHeaders (hlater.sameHeaders hget), ?_⟩
      intro id other hother
      by_cases hid : id = accessor.owner
      · subst hid
        rw [hlater.accessor?_owner] at hother
        cases hother
        exact ⟨_, hlater.get?_owner, Declaration.bears_withAccessor hfree⟩
      · exact hold id other ((hlater.others id hid).accessor?.symm.trans hother)
  | rejected id =>
      exact ⟨htable.idOf?, htable.accessors⟩

theorem Coherent.afterAll (h : table.Coherent) (changes : List Change) :
    (table.afterAll changes).Coherent := by
  induction changes generalizing table with
  | nil =>
      exact h
  | cons change changes ih =>
      exact ih ((changed_after table change).coherent h)

end Table
end AccessorSynthesis
