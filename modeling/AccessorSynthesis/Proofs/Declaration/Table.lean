import AccessorSynthesis.Declaration.Table
import AccessorSynthesis.Proofs.Keyed
import AccessorSynthesis.Proofs.Refusable

/-!
# Table — what each change of a table reaches

A change concerns one declaration and leaves what the table says of all others as it was.  This file
defines

* `Table.SameAt table later id` — both tables say the same of the declaration;
* `Declaration.withMember`, `Declaration.withAccessor` — a declaration with one more member;
* `Declaration.isGenerated declaration name` — the member of that name was generated.

For each of `add`, `addMember`, `register` and `reject` there is one statement of what it changes.
-/

namespace AccessorSynthesis

/-! ## Declarations with one more member -/

namespace Declaration

/-- The declaration with one more member. -/
def withMember (declaration : Declaration) (name : String) (member : Member) : Declaration :=
  { declaration with members := declaration.members.append name member }

/-- The declaration with the member that an accessor is. -/
def withAccessor (declaration : Declaration) (accessor : Accessor) : Declaration :=
  declaration.withMember accessor.name ⟨accessor.flags, Table.accessorType, declaration.span⟩

/-- Was the member of that name generated? -/
def isGenerated (declaration : Declaration) (name : String) : Bool :=
  (declaration.members.find? name).any fun member => member.flags.has .synthetic

variable {declaration : Declaration} {name other : String} {member : Member}

theorem isGenerated_withMember_self (h : declaration.members.find? name = none) :
    (declaration.withMember name member).isGenerated name = member.flags.has .synthetic := by
  have hfound : (declaration.withMember name member).members.find? name = some member :=
    Keyed.find?_append_self h member
  rw [isGenerated, hfound]
  rfl

theorem isGenerated_withMember_of_ne (h : other ≠ name) :
    (declaration.withMember name member).isGenerated other = declaration.isGenerated other := by
  have hfound : (declaration.withMember name member).members.find? other
      = declaration.members.find? other := Keyed.find?_append_of_ne h declaration.members member
  rw [isGenerated, hfound]
  rfl

theorem isGenerated_of_find?_eq_none (h : declaration.members.find? name = none) :
    declaration.isGenerated name = false := by
  rw [isGenerated, h]
  rfl

end Declaration

namespace Table

variable {table later last : Table} {id other : DeclarationId} {declaration : Declaration}

/-! ## Tables that agree on a declaration -/

/-- Both tables say the same of the declaration. -/
structure SameAt (table later : Table) (id : DeclarationId) : Prop where
  get? : later.get? id = table.get? id
  accessor? : later.accessor? id = table.accessor? id
  isRejected : later.isRejected id = table.isRejected id

theorem SameAt.refl (table : Table) (id : DeclarationId) : table.SameAt table id :=
  ⟨rfl, rfl, rfl⟩

theorem SameAt.symm (h : table.SameAt later id) : later.SameAt table id :=
  ⟨h.get?.symm, h.accessor?.symm, h.isRejected.symm⟩

theorem SameAt.trans (h : table.SameAt later id) (h' : later.SameAt last id) :
    table.SameAt last id where
  get? := h'.get?.trans h.get?
  accessor? := h'.accessor?.trans h.accessor?
  isRejected := h'.isRejected.trans h.isRejected

/-- Tables that agree on all declarations are the same table. -/
theorem eq_of_sameAt (h : ∀ id, table.SameAt later id) : later = table := by
  have hdeclarations : later.declarations = table.declarations :=
    Array.ext_getElem? fun id => (h id).get?
  have haccessors : later.accessors = table.accessors :=
    Std.ExtTreeMap.ext_getElem? fun id => (h id).accessor?
  have hrejected : later.rejected = table.rejected :=
    Std.ExtTreeSet.ext_mem fun id => decide_eq_decide.1 (h id).isRejected
  cases later
  cases table
  cases hdeclarations
  cases haccessors
  cases hrejected
  rfl

/-- The table with another declaration in the place of one. -/
def replace (table : Table) (id : DeclarationId) (declaration : Declaration) : Table :=
  { table with declarations := table.declarations.setIfInBounds id declaration }

theorem get?_replace_self {old : Declaration} (h : table.get? id = some old)
    (declaration : Declaration) : (table.replace id declaration).get? id = some declaration := by
  have hlt : id < table.declarations.size := (Array.getElem?_eq_some_iff.1 h).1
  exact Array.getElem?_setIfInBounds_self_of_lt hlt

theorem sameAt_replace (h : other ≠ id) (declaration : Declaration) :
    table.SameAt (table.replace id declaration) other where
  get? := Array.getElem?_setIfInBounds_ne h.symm
  accessor? := rfl
  isRejected := rfl

/-! ## Compiled declarations -/

theorem mem_compiled_iff :
    (id, declaration) ∈ table.compiled ↔
      table.get? id = some declaration ∧ declaration.isCompiled = true := by
  have hmem : (id, declaration) ∈ table.toList ↔ table.get? id = some declaration := by
    simp [toList, get?, List.mem_zipIdx_iff_getElem?]
  rw [compiled, List.mem_filter, hmem]

theorem get?_of_mem_compiled (table : Table) :
    ∀ item ∈ table.compiled, table.get? item.1 = some item.2 :=
  fun _ hitem => (mem_compiled_iff.1 hitem).1

/-- The compiled declarations are listed in the order of their numbers. -/
theorem pairwise_compiled (table : Table) : table.compiled.Pairwise fun a b => a.1 < b.1 := by
  have hids : table.toList.map Prod.fst = List.range table.size := by
    simp [toList, size, List.range_eq_range', Function.comp_def]
  refine List.Pairwise.filter _ (List.pairwise_map.1 ?_)
  rw [hids]
  exact List.pairwise_lt_range

/-! ## What each change reaches -/

theorem get?_size (table : Table) : table.get? table.size = none :=
  Array.getElem?_eq_none_iff.2 (Nat.le_refl _)

/-- A declaration that is added comes at the end, and nothing else changes. -/
theorem add_cases (h : table.add declaration = .ok (id, later)) :
    id = table.size ∧ later.get? id = some declaration ∧
      (∀ other, later.accessor? other = table.accessor? other) ∧
      ∀ other, other ≠ id → table.SameAt later other := by
  unfold add at h
  split at h
  · cases h
  · cases h
    refine ⟨rfl, Array.getElem?_push_size, fun _ => rfl, ?_⟩
    intro other hother
    refine ⟨?_, rfl, rfl⟩
    show (table.declarations.push declaration)[other]? = table.declarations[other]?
    rw [Array.getElem?_push]
    exact if_neg hother

theorem isRejected_of_add (h : table.add declaration = .ok (id, later)) (other : DeclarationId) :
    later.isRejected other = table.isRejected other := by
  unfold add at h
  split at h
  · cases h
  · cases h
    rfl

/-- A declaration that is added has a new name, which leads to it from then on. -/
theorem idOf?_of_add (h : table.add declaration = .ok (id, later)) :
    table.idOf? declaration.name = none ∧ ∀ name, later.idOf? name
      = (table.idOf? name).or (if declaration.name = name then some id else none) := by
  unfold add at h
  split at h
  · cases h
  · rename_i hnew
    cases h
    refine ⟨hnew, ?_⟩
    intro name
    show (table.declarations.push declaration).findIdx? _ = _
    rw [Array.findIdx?_push]
    simp only [decide_eq_true_eq]
    rfl

theorem addMember_eq_ok_iff {name : String} {member : Member} :
    table.addMember id name member = .ok later ↔
      ∃ declaration, table.get? id = some declaration ∧ declaration.members.find? name = none ∧
        later = table.replace id (declaration.withMember name member) := by
  unfold addMember
  constructor
  · intro h
    split at h
    · cases h
    · rename_i declaration hget
      split at h
      · cases h
      · rename_i hfree
        cases h
        exact ⟨declaration, hget, hfree, rfl⟩
  · rintro ⟨declaration, hget, hfree, rfl⟩
    simp only [hget, hfree]
    rfl

/-- What a table says after an accessor is registered. -/
structure Registered (table : Table) (declaration : Declaration) (accessor : Accessor)
    (later : Table) : Prop where
  get?_owner : later.get? accessor.owner = some (declaration.withAccessor accessor)
  accessor?_owner : later.accessor? accessor.owner = some accessor
  isRejected : ∀ id, later.isRejected id = table.isRejected id
  others : ∀ id, id ≠ accessor.owner → table.SameAt later id

/-- Tables that agree on the owner still do so when both have the accessor. -/
theorem Registered.sameAt_owner {accessor : Accessor} {next : Table}
    (h : table.Registered declaration accessor next)
    (h' : later.Registered declaration accessor last)
    (hsame : table.SameAt later accessor.owner) : next.SameAt last accessor.owner where
  get? := h'.get?_owner.trans h.get?_owner.symm
  accessor? := h'.accessor?_owner.trans h.accessor?_owner.symm
  isRejected := by
    rw [h.isRejected, h'.isRejected]
    exact hsame.isRejected

/-- A declaration without accessor and without member of that name does not refuse an accessor. -/
theorem exists_registered {accessor : Accessor}
    (hget : table.get? accessor.owner = some declaration)
    (hnone : table.accessor? accessor.owner = none)
    (hfree : declaration.members.find? accessor.name = none) :
    ∃ later, table.register accessor = .ok later ∧ table.Registered declaration accessor later := by
  have hadd : table.addMember accessor.owner accessor.name
      ⟨accessor.flags, accessorType, declaration.span⟩
      = .ok (table.replace accessor.owner (declaration.withAccessor accessor)) :=
    addMember_eq_ok_iff.2 ⟨declaration, hget, hfree, rfl⟩
  refine ⟨{ table.replace accessor.owner (declaration.withAccessor accessor) with
    accessors := table.accessors.insert accessor.owner accessor }, ?_, ?_, ?_, fun _ => rfl, ?_⟩
  · unfold register
    simp only [hget, hnone]
    exact bind_eq_ok_iff.2 ⟨_, hadd, rfl⟩
  · exact get?_replace_self hget _
  · exact Std.ExtTreeMap.getElem?_insert_self
  · -- The accessor is entered after its member, and both concern the owner alone.
    intro id hid
    have hsame : table.SameAt (table.replace accessor.owner (declaration.withAccessor accessor)) id :=
      sameAt_replace hid _
    refine ⟨hsame.get?, ?_, rfl⟩
    show (table.accessors.insert accessor.owner accessor)[id]? = table.accessors[id]?
    rw [Std.ExtTreeMap.getElem?_insert, if_neg]
    intro hequal
    exact hid (Std.LawfulEqOrd.eq_of_compare hequal).symm

/-- An accessor that is registered was not refused for any reason. -/
theorem register_cases {accessor : Accessor} (h : table.register accessor = .ok later) :
    ∃ declaration, table.get? accessor.owner = some declaration ∧
      table.accessor? accessor.owner = none ∧
      declaration.members.find? accessor.name = none ∧
      table.Registered declaration accessor later := by
  have hregister := h
  unfold register at h
  split at h
  · cases h
  · rename_i declaration hget
    split at h
    · cases h
    · rename_i hnone
      rcases bind_eq_ok_iff.1 h with ⟨middle, hmember, _⟩
      rcases addMember_eq_ok_iff.1 hmember with ⟨found, hfound, hfree, _⟩
      rw [hget] at hfound
      cases hfound
      rcases exists_registered hget hnone hfree with ⟨same, hsame, hregistered⟩
      rw [hregister] at hsame
      cases hsame
      exact ⟨declaration, hget, hnone, hfree, hregistered⟩

theorem isRejected_reject_self (table : Table) (id : DeclarationId) :
    (table.reject id).isRejected id = true :=
  decide_eq_true Std.ExtTreeSet.mem_insert_self

theorem SameAt.reject_self (h : table.SameAt later id) :
    (table.reject id).SameAt (later.reject id) id where
  get? := h.get?
  accessor? := h.accessor?
  isRejected := (later.isRejected_reject_self id).trans (table.isRejected_reject_self id).symm

theorem sameAt_reject (h : other ≠ id) : table.SameAt (table.reject id) other where
  get? := rfl
  accessor? := rfl
  isRejected := by
    have hiff : other ∈ table.rejected.insert id ↔ other ∈ table.rejected := by
      rw [Std.ExtTreeSet.mem_insert]
      constructor
      · rintro (hequal | hmem)
        · exact absurd (Std.LawfulEqOrd.eq_of_compare hequal).symm h
        · exact hmem
      · exact Or.inr
    exact decide_eq_decide.2 hiff

end Table
end AccessorSynthesis
