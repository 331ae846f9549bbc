import AccessorSynthesis.Proofs.Declaration.Table

/-!
# Updates — what is added to a table, or why nothing is

A declaration, a member or an accessor is added to a table as a whole, or it is refused and the table
is as before.  This file defines

* `Table.Steps ε α` — a change made step by step, where what was done before a refusal stays done;
* `Table.addSteps`, `Table.addMemberSteps`, `Table.registerSteps` — the three changes in this form;
* `Table.NameRefused`, `Table.MemberRefused`, `Table.RegistrationRefused` — the causes of each error;
* `Table.DeclarationAdded`, `Table.MemberAdded` — what is new, and what is as before;
* `Table.AllOrNothing` — a change has these causes and effects, and where it is refused its steps leave
  no traces.

An accessor is a member and an entry of its own, and the member may be refused when there is room for
the entry.  The steps look for the entry, add the member, and make the entry last
(`registerSteps_eq`), so that neither is ever there alone (`allOrNothing`).
-/

namespace AccessorSynthesis
namespace Table

variable {table later : Table} {declaration : Declaration} {id : DeclarationId} {name : String}
variable {member : Member} {accessor : Accessor}

/-! ## Changes, step by step -/

/-- A change of a table that may be refused.  What it did until then is not taken back. -/
abbrev Steps (ε α : Type) := ExceptT ε (StateM Table) α

/-- Adds a declaration behind the others and returns its number. -/
def addSteps (declaration : Declaration) : Steps NameTaken DeclarationId := do
  let table ← get
  if (table.idOf? declaration.name).isSome then
    throw ⟨declaration.name⟩
  set { table with declarations := table.declarations.push declaration }
  return table.size

/-- Adds a member behind the others of its declaration. -/
def addMemberSteps (id : DeclarationId) (name : String) (member : Member) :
    Steps RegistrationError Unit := do
  match (← get).get? id with
  | none => throw (.unknownDeclaration id)
  | some declaration =>
      if (declaration.members.find? name).isSome then
        throw (.memberExists name)
      modify fun table => table.replace id (declaration.withMember name member)

/-- Adds the member that the accessor is, and then the accessor. -/
def registerSteps (accessor : Accessor) : Steps RegistrationError Unit := do
  match (← get).get? accessor.owner with
  | none => throw (.unknownDeclaration accessor.owner)
  | some declaration =>
      if ((← get).accessor? accessor.owner).isSome then
        throw (.alreadyRegistered accessor.owner)
      addMemberSteps accessor.owner accessor.name ⟨accessor.flags, accessorType, declaration.span⟩
      modify fun table => { table with
        accessors := table.accessors.insert accessor.owner accessor }

/-- The result of a change, with the table that is left: the new one, or the old one if the change is
refused. -/
def leaving {ε α : Type} (table : Table) : Except ε (α × Table) → Except ε α × Table
  | .ok (a, later) => (.ok a, later)
  | .error e => (.error e, table)

/-- What is read first is the table at the start. -/
theorem get_bind_apply {ε α : Type} (next : Table → Steps ε α) (table : Table) :
    (get >>= next) table = next table table :=
  rfl

/-- Two changes, of which the second is made in the table that the first leaves. -/
theorem bind_apply {ε α β : Type} (first : Steps ε α) (next : α → Steps ε β) (table : Table) :
    (first >>= next) table = match first table with
      | (.ok a, later) => next a later
      | (.error e, later) => (.error e, later) := by
  have hrun : (first >>= next) table = ExceptT.bindCont next (first table).1 (first table).2 := rfl
  rw [hrun]
  rcases first table with ⟨e | a, later⟩
  · rfl
  · rfl

theorem addSteps_eq (table : Table) (declaration : Declaration) :
    addSteps declaration table = table.leaving (table.add declaration) := by
  unfold add
  rw [addSteps, get_bind_apply]
  cases table.idOf? declaration.name with
  | none =>
      rfl
  | some found =>
      rfl

theorem addMemberSteps_eq (table : Table) (id : DeclarationId) (name : String) (member : Member) :
    addMemberSteps id name member table
      = table.leaving ((table.addMember id name member).map (Prod.mk ())) := by
  unfold addMember
  rw [addMemberSteps, get_bind_apply]
  cases table.get? id with
  | none =>
      rfl
  | some declaration =>
      dsimp only
      cases declaration.members.find? name with
      | none =>
          rfl
      | some old =>
          rfl

/-- The member is the only thing that may still be refused once the owner has no accessor, and it is
added before the accessor. -/
theorem registerSteps_eq (table : Table) (accessor : Accessor) :
    registerSteps accessor table = table.leaving ((table.register accessor).map (Prod.mk ())) := by
  unfold register
  rw [registerSteps, get_bind_apply]
  cases table.get? accessor.owner with
  | none =>
      rfl
  | some declaration =>
      dsimp only
      rw [get_bind_apply]
      cases table.accessor? accessor.owner with
      | some old =>
          rfl
      | none =>
          -- There is room for an accessor.  If its member is refused now, nothing has been done yet.
          dsimp only [Option.isSome_none]
          rw [if_neg Bool.false_ne_true]
          rw [bind_apply, addMemberSteps_eq]
          cases table.addMember accessor.owner accessor.name
              ⟨accessor.flags, accessorType, declaration.span⟩ with
          | error e =>
              rfl
          | ok later =>
              rfl

/-! ## Causes -/

/-- A declaration of that name is there already. -/
def NameRefused (table : Table) (declaration : Declaration) (e : NameTaken) : Prop :=
  e = ⟨declaration.name⟩ ∧ ∃ id found, table.get? id = some found ∧ found.name = declaration.name

/-- The declaration does not exist, or it has a member of that name. -/
inductive MemberRefused (table : Table) (id : DeclarationId) (name : String) :
    RegistrationError → Prop where
  | unknown (hget : table.get? id = none) : MemberRefused table id name (.unknownDeclaration id)
  | taken {declaration : Declaration} {member : Member} (hget : table.get? id = some declaration)
      (hmember : declaration.members.find? name = some member) :
      MemberRefused table id name (.memberExists name)

/-- The owner does not exist; else it has an accessor; else it has a member of that name. -/
inductive RegistrationRefused (table : Table) (accessor : Accessor) : RegistrationError → Prop where
  | unknown (hget : table.get? accessor.owner = none) :
      RegistrationRefused table accessor (.unknownDeclaration accessor.owner)
  | registered {declaration : Declaration} {old : Accessor}
      (hget : table.get? accessor.owner = some declaration)
      (hold : table.accessor? accessor.owner = some old) :
      RegistrationRefused table accessor (.alreadyRegistered accessor.owner)
  | taken {declaration : Declaration} {member : Member}
      (hget : table.get? accessor.owner = some declaration)
      (hnone : table.accessor? accessor.owner = none)
      (hmember : declaration.members.find? accessor.name = some member) :
      RegistrationRefused table accessor (.memberExists accessor.name)

theorem isSome_idOf?_iff {name : QualifiedName} :
    (table.idOf? name).isSome = true ↔ ∃ id found, table.get? id = some found ∧ found.name = name := by
  unfold idOf?
  rw [Array.findIdx?_isSome, Array.any_eq_true']
  constructor
  · rintro ⟨found, hmem, hname⟩
    rcases Array.mem_iff_getElem?.1 hmem with ⟨id, hget⟩
    exact ⟨id, found, hget, of_decide_eq_true hname⟩
  · rintro ⟨id, found, hget, hname⟩
    exact ⟨found, Array.mem_of_getElem? hget, decide_eq_true hname⟩

theorem add_eq_error_iff {e : NameTaken} :
    table.add declaration = .error e ↔ table.NameRefused declaration e := by
  unfold NameRefused
  rw [← isSome_idOf?_iff]
  unfold add
  cases table.idOf? declaration.name with
  | none =>
      simp
  | some found =>
      simp [eq_comm]

theorem addMember_eq_error_iff {e : RegistrationError} :
    table.addMember id name member = .error e ↔ table.MemberRefused id name e := by
  unfold addMember
  constructor
  · intro h
    split at h
    · rename_i hget
      cases h
      exact .unknown hget
    · rename_i declaration hget
      split at h
      · rename_i old hmember
        cases h
        exact .taken hget hmember
      · cases h
  · intro h
    cases h with
    | unknown hget =>
        rw [hget]
    | taken hget hmember =>
        simp only [hget, hmember]

theorem register_eq_error_iff {e : RegistrationError} :
    table.register accessor = .error e ↔ table.RegistrationRefused accessor e := by
  unfold register
  constructor
  · intro h
    split at h
    · rename_i hget
      cases h
      exact .unknown hget
    · rename_i declaration hget
      split at h
      · rename_i old hold
        cases h
        exact .registered hget hold
      · rename_i hnone
        -- The owner exists, so that the member can only be refused for its name.
        rcases bind_eq_error_iff.1 h with hmember | ⟨later, _, hmade⟩
        · cases addMember_eq_error_iff.1 hmember with
          | unknown hget' =>
              rw [hget] at hget'
              cases hget'
          | taken hget' htaken =>
              exact .taken hget' hnone htaken
        · cases hmade
  · intro h
    cases h with
    | unknown hget =>
        rw [hget]
    | registered hget hold =>
        simp only [hget, hold]
    | taken hget hnone hmember =>
        simp only [hget, hnone]
        exact bind_eq_error_iff.2 (Or.inl (addMember_eq_error_iff.2 (.taken hget hmember)))

/-! ## Effects -/

/-- The declaration is new and comes behind the others; nothing else is different. -/
structure DeclarationAdded (table : Table) (declaration : Declaration) (id : DeclarationId)
    (later : Table) : Prop where
  number : id = table.size
  get? : later.get? id = some declaration
  accessor? : later.accessor? id = table.accessor? id
  isRejected : later.isRejected id = table.isRejected id
  others : ∀ other, other ≠ id → table.SameAt later other

/-- The member is new and comes behind the others of its declaration; up to accessors nothing else is
different. -/
structure MemberAdded (table : Table) (id : DeclarationId) (declaration : Declaration) (name : String)
    (member : Member) (later : Table) : Prop where
  owner : table.get? id = some declaration
  free : declaration.members.find? name = none
  get? : later.get? id = some (declaration.withMember name member)
  isRejected : later.isRejected id = table.isRejected id
  others : ∀ other, other ≠ id → table.SameAt later other

theorem declarationAdded_of_add (h : table.add declaration = .ok (id, later)) :
    table.DeclarationAdded declaration id later := by
  rcases add_cases h with ⟨hnumber, hget, haccessor, hothers⟩
  exact ⟨hnumber, hget, haccessor id, isRejected_of_add h id, hothers⟩

theorem memberAdded_of_addMember (h : table.addMember id name member = .ok later) :
    ∃ declaration, table.MemberAdded id declaration name member later ∧
      later.accessor? id = table.accessor? id := by
  rcases addMember_eq_ok_iff.1 h with ⟨declaration, hget, hfree, rfl⟩
  exact ⟨declaration, ⟨hget, hfree, get?_replace_self hget _, rfl, fun _ hother =>
    sameAt_replace hother _⟩, rfl⟩

theorem memberAdded_of_register (h : table.register accessor = .ok later) :
    ∃ declaration, table.MemberAdded accessor.owner declaration accessor.name
        ⟨accessor.flags, accessorType, declaration.span⟩ later ∧
      table.accessor? accessor.owner = none ∧ later.accessor? accessor.owner = some accessor := by
  rcases register_cases h with ⟨declaration, hget, hnone, hfree, hregistered⟩
  exact ⟨declaration, ⟨hget, hfree, hregistered.get?_owner, hregistered.isRejected _,
    hregistered.others⟩, hnone, hregistered.accessor?_owner⟩

/-! ## All or nothing -/

/-- The change is refused exactly for these causes and has this effect otherwise; step by step it
leaves the new table, or if it is refused the old one. -/
structure AllOrNothing {ε α : Type} (table : Table) (steps : Steps ε α)
    (result : Except ε (α × Table)) (refused : ε → Prop) (done : α → Table → Prop) : Prop where
  error_iff : ∀ e, result = .error e ↔ refused e
  ok : ∀ a later, result = .ok (a, later) → done a later
  left : steps table = table.leaving result

/-- A change with nothing to return but the table. -/
theorem AllOrNothing.of_table {ε : Type} {steps : Steps ε Unit} {result : Except ε Table}
    {refused : ε → Prop} {done : Table → Prop} (herror : ∀ e, result = .error e ↔ refused e)
    (hok : ∀ later, result = .ok later → done later)
    (hleft : steps table = table.leaving (result.map (Prod.mk ()))) :
    table.AllOrNothing steps (result.map (Prod.mk ())) refused fun _ later => done later where
  error_iff := fun e => map_eq_error_iff.trans (herror e)
  ok := by
    rintro ⟨⟩ later h
    rcases map_eq_ok_iff.1 h with ⟨_, hmade, ⟨⟩⟩
    exact hok later hmade
  left := hleft

/-- Whatever the table is: each change is refused exactly if it should be, then leaves the whole table
as it was, and otherwise adds what it should add and changes nothing else. -/
theorem allOrNothing (table : Table) :
    (∀ declaration, table.AllOrNothing (addSteps declaration) (table.add declaration)
      (table.NameRefused declaration) (table.DeclarationAdded declaration)) ∧
    (∀ id name member, table.AllOrNothing (addMemberSteps id name member)
      ((table.addMember id name member).map (Prod.mk ())) (table.MemberRefused id name)
      fun _ later => ∃ declaration, table.MemberAdded id declaration name member later ∧
        later.accessor? id = table.accessor? id) ∧
    ∀ accessor, table.AllOrNothing (registerSteps accessor)
      ((table.register accessor).map (Prod.mk ())) (table.RegistrationRefused accessor)
      fun _ later => ∃ declaration, table.MemberAdded accessor.owner declaration accessor.name
          ⟨accessor.flags, accessorType, declaration.span⟩ later ∧
        table.accessor? accessor.owner = none ∧ later.accessor? accessor.owner = some accessor := by
  refine ⟨?_, ?_, ?_⟩
  · intro declaration
    exact ⟨fun e => add_eq_error_iff, fun id later => declarationAdded_of_add,
      table.addSteps_eq declaration⟩
  · intro id name member
    exact .of_table (fun e => addMember_eq_error_iff) (fun later => memberAdded_of_addMember)
      (table.addMemberSteps_eq id name member)
  · intro accessor
    exact .of_table (fun e => register_eq_error_iff) (fun later => memberAdded_of_register)
      (table.registerSteps_eq accessor)

end Table
end AccessorSynthesis
