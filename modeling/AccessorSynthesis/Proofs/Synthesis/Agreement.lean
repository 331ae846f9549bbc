import AccessorSynthesis.Proofs.Compilation.Emission
import AccessorSynthesis.Proofs.Synthesis.Visit

/-!
# Agreement — generated members and accessors belong together

Resolution leaves two traces of an accessor, a member and an entry among the accessors, and emission
consults both.  This file defines

* `Table.Reachable table added` — declarations, declared members and visits lead to the table, and
  these are the declarations as they were added;
* `Table.AgreesAt table added id` — at the declaration, the generated members are the accessor's and
  those that it was added with, and the accessor is a generated member.

Every change keeps the agreement (`agreesAt_of_add`, `agreesAt_of_addMember`, `agreesAt_of_visited`),
so that every reachable table has it, whatever the configurations of the visits were
(`Reachable.agreesAt`).  Emission therefore finds what it looks for (`emit_of_reachable`), except for
a declaration that comes from another table: it brings the generated member along and not the
accessor (`emit_of_copiedClass`).
-/

namespace AccessorSynthesis

/-- The accessor is a generated member of the declaration, which has a shape for accessors. -/
structure Declaration.Holds (declaration : Declaration) (accessor : Accessor) : Prop where
  generated : declaration.isGenerated accessor.name = true
  shape : ¬declaration.shape.IsRestricted

namespace Table

variable {table later : Table} {id other : DeclarationId} {declaration : Declaration}
variable {added : List Declaration}

/-! ## Reachable tables -/

/-- The tables that can come about, with the declarations as they were added: declarations are added,
whatever members they have, members that are not generated are added to them, and any configuration
visits any declaration at any time. -/
inductive Reachable : Table → List Declaration → Prop where
  | empty : Reachable .empty []
  | add {table later : Table} {added : List Declaration} {declaration : Declaration}
      {id : DeclarationId} (h : Reachable table added)
      (hlater : table.add declaration = .ok (id, later)) : Reachable later (added ++ [declaration])
  | addMember {table later : Table} {added : List Declaration} {id : DeclarationId} {name : String}
      {member : Member} (h : Reachable table added)
      (hdeclared : member.flags.has .synthetic = false)
      (hlater : table.addMember id name member = .ok later) : Reachable later added
  | synthesize {table : Table} {added : List Declaration} (h : Reachable table added)
      (config : Configuration) (id : DeclarationId) :
      Reachable (config.synthesize table id).table added

/-! ## The agreement and its preservation -/

/-- At the declaration, the generated members are the accessor's and those that the declaration was
added with, and the accessor is a generated member. -/
structure AgreesAt (table : Table) (added : List Declaration) (id : DeclarationId) : Prop where
  original_eq_none : table.get? id = none → added[id]? = none
  generated_iff : ∀ declaration, table.get? id = some declaration →
    ∃ original, added[id]? = some original ∧ ∀ name, declaration.isGenerated name = true ↔
      original.isGenerated name = true ∨
        ∃ accessor, table.accessor? id = some accessor ∧ accessor.name = name
  declaration_of_accessor : ∀ accessor, table.accessor? id = some accessor →
    ∃ declaration, table.get? id = some declaration ∧ declaration.Holds accessor

theorem AgreesAt.of_sameAt {added' : List Declaration} (h : table.AgreesAt added id)
    (hsame : table.SameAt later id) (hadded : added'[id]? = added[id]?) :
    later.AgreesAt added' id where
  original_eq_none := by
    rw [hsame.get?, hadded]
    exact h.original_eq_none
  generated_iff := by
    rw [hsame.get?, hsame.accessor?, hadded]
    exact h.generated_iff
  declaration_of_accessor := by
    rw [hsame.get?, hsame.accessor?]
    exact h.declaration_of_accessor

/-- Where there is a declaration, the agreement is a statement about this one. -/
theorem AgreesAt.of_get? {original : Declaration} (hget : table.get? id = some declaration)
    (horiginal : added[id]? = some original)
    (hiff : ∀ name, declaration.isGenerated name = true ↔ original.isGenerated name = true ∨
      ∃ accessor, table.accessor? id = some accessor ∧ accessor.name = name)
    (hholds : ∀ accessor, table.accessor? id = some accessor → declaration.Holds accessor) :
    table.AgreesAt added id where
  original_eq_none := by
    rw [hget]
    intro hnone
    cases hnone
  generated_iff := by
    intro found hfound
    rw [hget] at hfound
    cases hfound
    exact ⟨original, horiginal, hiff⟩
  declaration_of_accessor := fun accessor haccessor => ⟨declaration, hget, hholds accessor haccessor⟩

/-- A table that agrees with the added declarations everywhere has as many of them. -/
theorem length_eq_size (h : ∀ id, table.AgreesAt added id) : added.length = table.size := by
  apply Nat.le_antisymm
  · exact List.getElem?_eq_none_iff.1 ((h table.size).original_eq_none table.get?_size)
  · cases hget : table.get? added.length with
    | none =>
        exact Array.getElem?_eq_none_iff.1 hget
    | some declaration =>
        rcases (h added.length).generated_iff declaration hget with ⟨original, horiginal, _⟩
        rw [List.getElem?_eq_none (Nat.le_refl _)] at horiginal
        cases horiginal

theorem agreesAt_empty (id : DeclarationId) : Table.empty.AgreesAt [] id where
  original_eq_none := fun _ => rfl
  generated_iff := by
    intro declaration hget
    cases hget
  declaration_of_accessor := by
    intro accessor haccessor
    have hnone : Table.empty.accessor? id = none := Std.ExtTreeMap.getElem?_empty
    rw [hnone] at haccessor
    cases haccessor

theorem agreesAt_of_add (h : ∀ id, table.AgreesAt added id)
    (hlater : table.add declaration = .ok (id, later)) :
    later.AgreesAt (added ++ [declaration]) other := by
  rcases add_cases hlater with ⟨rfl, hget, haccessors, hothers⟩
  have hlength := length_eq_size h
  by_cases hother : other = table.size
  · subst hother
    -- The number is new, so there cannot be an accessor for it yet.
    have hnone : later.accessor? table.size = none := by
      rw [haccessors]
      cases haccessor : table.accessor? table.size with
      | none =>
          rfl
      | some accessor =>
          rcases (h table.size).declaration_of_accessor accessor haccessor with ⟨found, hfound, _⟩
          rw [get?_size] at hfound
          cases hfound
    have hadded : (added ++ [declaration])[table.size]? = some declaration := by
      rw [← hlength, List.getElem?_concat_length]
    refine .of_get? hget hadded ?_ ?_
    · simp [hnone]
    · rw [hnone]
      intro accessor haccessor
      cases haccessor
  · refine (h other).of_sameAt (hothers other hother) ?_
    rcases Nat.lt_or_gt_of_ne (hlength ▸ hother : ¬other = added.length) with hlt | hgt
    · exact List.getElem?_append_left hlt
    · rw [List.getElem?_eq_none (Nat.le_of_lt hgt), List.getElem?_eq_none]
      rw [List.length_append]
      exact hgt

theorem agreesAt_of_addMember {name : String} {member : Member} (h : ∀ id, table.AgreesAt added id)
    (hdeclared : member.flags.has .synthetic = false)
    (hlater : table.addMember id name member = .ok later) : later.AgreesAt added other := by
  rcases addMember_eq_ok_iff.1 hlater with ⟨declaration, hget, hfree, rfl⟩
  by_cases hother : other = id
  · subst hother
    have hget' := get?_replace_self hget (declaration.withMember name member)
    -- The new member is not generated, and the accessor's name was taken before.
    have hgenerated : ∀ searched, (declaration.withMember name member).isGenerated searched
        = declaration.isGenerated searched := by
      intro searched
      by_cases hsearched : searched = name
      · subst hsearched
        rw [Declaration.isGenerated_withMember_self hfree, hdeclared,
          Declaration.isGenerated_of_find?_eq_none hfree]
      · exact Declaration.isGenerated_withMember_of_ne hsearched
    rcases (h other).generated_iff declaration hget with ⟨original, horiginal, hiff⟩
    refine .of_get? hget' horiginal ?_ ?_
    · intro searched
      rw [hgenerated]
      exact hiff searched
    · intro accessor haccessor
      rcases (h other).declaration_of_accessor accessor haccessor with ⟨found, hfound, hholds⟩
      rw [hget] at hfound
      cases hfound
      refine ⟨?_, hholds.shape⟩
      rw [hgenerated]
      exact hholds.generated
  · exact (h other).of_sameAt (sameAt_replace hother _) rfl

theorem agreesAt_of_visited {config : Configuration} {found : List Message}
    (h : ∀ id, table.AgreesAt added id) (hvisited : config.Visited table id later found) :
    later.AgreesAt added other := by
  cases hvisited with
  | passed _ | unmarked _ _ _ =>
      exact h other
  | unsupported _ _ _ _ | nameTaken _ _ _ _ _ _ =>
      -- A refusal is noted apart from declarations and accessors.
      exact ⟨(h other).original_eq_none, (h other).generated_iff, (h other).declaration_of_accessor⟩
  | granted declaration later hunsettled hmark hshape hfree hlater =>
      by_cases hother : other = id
      · subst hother
        have hget : later.get? other
            = some (declaration.withAccessor (config.accessorOf other declaration)) :=
          hlater.get?_owner
        have hregistered : later.accessor? other = some (config.accessorOf other declaration) :=
          hlater.accessor?_owner
        have hgenerated : (declaration.withAccessor
            (config.accessorOf other declaration)).isGenerated config.accessorName = true :=
          (Declaration.isGenerated_withMember_self hfree).trans declaration.has_synthetic_accessorFlags
        rcases (h other).generated_iff declaration hunsettled.get? with ⟨original, horiginal, hiff⟩
        refine .of_get? hget horiginal ?_ ?_
        · intro name
          by_cases hname : name = config.accessorName
          · subst hname
            exact iff_of_true hgenerated (Or.inr ⟨_, hregistered, rfl⟩)
          · -- Before, there was no accessor, and this one has another name.
            have hbefore : (declaration.withAccessor
                (config.accessorOf other declaration)).isGenerated name
                = declaration.isGenerated name :=
              Declaration.isGenerated_withMember_of_ne hname
            rw [hbefore, hiff name, hunsettled.accessor?, hregistered]
            simp only [Option.some.injEq, exists_eq_left', reduceCtorEq, false_and, exists_false]
            exact or_congr_right ⟨False.elim, fun hsame => hname hsame.symm⟩
        · intro accessor haccessor
          rw [hregistered] at haccessor
          cases haccessor
          exact ⟨hgenerated, hshape⟩
      · exact (h other).of_sameAt (hlater.others other hother) rfl

theorem Reachable.agreesAt (h : table.Reachable added) (id : DeclarationId) :
    table.AgreesAt added id := by
  -- One case for each operation, and in each the agreement at all numbers before.
  induction h generalizing id with
  | empty =>
      exact agreesAt_empty id
  | add h hlater ih =>
      exact agreesAt_of_add ih hlater
  | addMember h hdeclared hlater ih =>
      exact agreesAt_of_addMember ih hdeclared hlater
  | synthesize h config visited ih =>
      exact agreesAt_of_visited ih (config.visited_synthesize _ visited)

end Table

/-! ## Emission -/

/-- On a reachable table emission never misses a declaration or a shape.  Where no accessor of the
name is registered, nothing happens, unless the declaration was added with a generated member of that
name, which then lacks its accessor.  Where one is registered, it is written or refused by the class
file, and its method is all that is added. -/
theorem Configuration.emit_of_reachable {config : Configuration} {table : Table}
    {added : List Declaration} {id : DeclarationId} {declaration : Declaration}
    (h : table.Reachable added) (henabled : config.enabled = true)
    (hget : table.get? id = some declaration) (file : ClassFile) :
    ∃ original, added[id]? = some original ∧
    ((∀ accessor, table.accessor? id = some accessor → accessor.name ≠ config.accessorName) →
      (config.emit table id file).file = file ∧
      (config.emit table id file).result =
        if original.isGenerated config.accessorName then
          .error (.missingAccessor declaration.name config.accessorName)
        else .ok ()) ∧
    ∀ accessor, table.accessor? id = some accessor → accessor.name = config.accessorName →
      (∀ e, (config.emit table id file).result = .error e → ∃ cause, e = .classFile cause) ∧
      ((config.emit table id file).result = .ok () →
        ∃ method, (config.emit table id file).file.methods = file.methods ++ [method] ∧
          method.IsAccessor (config.emit table id file).file declaration.shape accessor) := by
  have hagrees := h.agreesAt id
  rcases hagrees.generated_iff declaration hget with ⟨original, horiginal, hiff⟩
  refine ⟨original, horiginal, ?_, ?_⟩
  · intro hother
    have hsame : declaration.isGenerated config.accessorName
        = original.isGenerated config.accessorName := by
      refine Bool.eq_iff_iff.2 ((hiff config.accessorName).trans (or_iff_left ?_))
      rintro ⟨accessor, haccessor, hname⟩
      exact hother accessor haccessor hname
    rw [← hsame]
    cases hgenerated : declaration.isGenerated config.accessorName with
    | false =>
        rw [emit_of_not_generated hget hgenerated file]
        exact ⟨rfl, rfl⟩
    | true =>
        rw [emit_of_missing henabled hget hgenerated hother file]
        exact ⟨rfl, rfl⟩
  · intro accessor haccessor hname
    rcases hagrees.declaration_of_accessor accessor haccessor with ⟨found, hfound, hholds⟩
    rw [hget] at hfound
    cases hfound
    have hends := ends_emit henabled hget (hname ▸ hholds.generated) haccessor hname file
    refine ⟨?_, ?_⟩
    · intro e he
      exact (hends.refused_of_result he).exists_cause hholds.shape
    · intro hok
      exact (hends.ok_of_result hok).exists_method

/-- A class that carries the annotation. -/
def Declaration.markedClass : Declaration :=
  ⟨⟨"a.A"⟩, .plainClass, false, false, [.ofName Configuration.standard.mark], none, [], .empty, none⟩

theorem Table.reachable_markedClass :
    Table.Reachable ⟨#[.markedClass], ∅, ∅⟩ [.markedClass] := by
  have hadd : Table.empty.add .markedClass = .ok (0, ⟨#[.markedClass], ∅, ∅⟩) := by
    simp [Table.add, Table.idOf?, Table.empty, Table.size]
  exact Table.Reachable.empty.add hadd

theorem Configuration.registered_markedClass :
    Table.Registered ⟨#[.markedClass], ∅, ∅⟩ .markedClass (standard.accessorOf 0 .markedClass)
      (standard.synthesize ⟨#[.markedClass], ∅, ∅⟩ 0).table :=
  registered_synthesize rfl ⟨rfl, rfl, rfl⟩ ⟨0, .markedClass, .refl, rfl, rfl⟩ (by decide) rfl

theorem Configuration.emit_of_markedClass :
    ∃ file table accessor method index,
      ClassFile.create "a/A" ClassFile.rootClass (.ofList [.pub, .super, .final]) = .ok file ∧
      (standard.synthesize ⟨#[.markedClass], ∅, ∅⟩ 0).table = table ∧
      table.Reachable [.markedClass] ∧ standard.enabled = true ∧
      table.get? 0 = some (Declaration.markedClass.withAccessor accessor) ∧
      table.accessor? 0 = some accessor ∧ accessor.name = standard.accessorName ∧
      (standard.emit table 0 file).result = .ok () ∧
      (standard.emit table 0 file).file.methods = file.methods ++ [method] ∧
      method.access = .ofList [.pub, .final] ∧ method.name = "track" ∧
      method.descriptor = "()Ljava/lang/String;" ∧
      method.body = some ⟨1, 1, [.loading index, .returnReference]⟩ ∧
      (standard.emit table 0 file).file.pool.stringAt? index = some "A" := by
  have hregistered := registered_markedClass
  have hreachable := Table.reachable_markedClass.synthesize standard 0
  generalize (standard.synthesize ⟨#[.markedClass], ∅, ∅⟩ 0).table = table at *
  have hwritten : (do
      let file ← (ClassFile.create "a/A" ClassFile.rootClass
        (.ofList [.pub, .super, .final])).mapError EmitError.classFile
      (file.emitAccessor .plainClass (standard.accessorOf 0 .markedClass)).result).toOption.isSome
      = true := by
    decide +kernel
  rcases exists_of_isSome_bind hwritten with ⟨file, done, hcreate, hdone⟩
  have henabled : standard.enabled = true := rfl
  have hresult := (emit_of_accessor? henabled hregistered.get?_owner rfl
    hregistered.accessor?_owner rfl file).2.trans hdone
  rcases emit_of_reachable hreachable henabled hregistered.get?_owner file with ⟨_, _, _, hwrites⟩
  rcases (hwrites _ hregistered.accessor?_owner rfl).2 hresult with ⟨method, hmethods, haccessor⟩
  rcases haccessor.concrete (Or.inl rfl) with ⟨body, hbody, index, rfl, hindex⟩
  exact ⟨file, table, _, method, index, mapError_eq_ok_iff.1 hcreate, rfl, hreachable, henabled,
    hregistered.get?_owner, hregistered.accessor?_owner, rfl, hresult, hmethods,
    haccessor.access.trans (by decide), haccessor.name, haccessor.descriptor, hbody, hindex⟩

/-- A declaration that is taken from a table where it has its accessor brings the generated member
along, and emission misses the accessor. -/
theorem Configuration.emit_of_copiedClass :
    ∃ first copied table file,
      (standard.synthesize ⟨#[.markedClass], ∅, ∅⟩ 0).table = first ∧
      first.Reachable [.markedClass] ∧ first.get? 0 = some copied ∧
      Table.empty.add copied = .ok (0, table) ∧ table.Reachable [copied] ∧
      standard.enabled = true ∧ table.get? 0 = some copied ∧ table.accessor? 0 = none ∧
      ClassFile.create "a/A" ClassFile.rootClass (.ofList [.pub, .super, .final]) = .ok file ∧
      (standard.emit table 0 file).result = .error (.missingAccessor ⟨"a.A"⟩ "track") := by
  have hregistered := registered_markedClass
  have hreachable := Table.reachable_markedClass.synthesize standard 0
  generalize (standard.synthesize ⟨#[.markedClass], ∅, ∅⟩ 0).table = first at *
  rcases ClassFile.exists_create "a/A" ClassFile.rootClass (.ofList [.pub, .super, .final]) with
    ⟨file, hcreate, _⟩
  let copied := Declaration.markedClass.withAccessor (standard.accessorOf 0 .markedClass)
  have hadd : Table.empty.add copied = .ok (0, ⟨#[copied], ∅, ∅⟩) := by
    simp [Table.add, Table.idOf?, Table.empty, Table.size]
  have hnone : Table.accessor? ⟨#[copied], ∅, ∅⟩ 0 = none := Std.ExtTreeMap.getElem?_empty
  have hother : ∀ accessor, Table.accessor? ⟨#[copied], ∅, ∅⟩ 0 = some accessor →
      accessor.name ≠ standard.accessorName := by
    rw [hnone]
    intro accessor haccessor
    cases haccessor
  exact ⟨first, copied, _, file, rfl, hreachable, hregistered.get?_owner, hadd,
    Table.Reachable.empty.add hadd, rfl, rfl, hnone, hcreate,
    congrArg Emission.result (emit_of_missing rfl rfl rfl hother file)⟩

end AccessorSynthesis
