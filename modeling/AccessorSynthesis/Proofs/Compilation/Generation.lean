import AccessorSynthesis.Proofs.ClassFile.Writing
import AccessorSynthesis.Proofs.Compilation.Resolution
import AccessorSynthesis.Proofs.Compilation.Skeleton

/-!
# Generation — the class files of a resolved table

Only the extension that makes accessors is installed here as well.  This file defines

* `Configuration.Provides config table id declaration accessor` — the table tells emission to write
  this accessor, or none;
* `Table.IsClassFile table declaration accessor file` — what the class file of a declaration is like.

`yields_classFile` is about one declaration.  `exists_of_generate` and `generate_eq_error` trace the
result for all declarations back to single ones.
-/

namespace AccessorSynthesis

open ClassFile (ConstantPool accessorDescriptor constructorDescriptor codeAttribute IsTooLong)

variable {config : Configuration} {table : Table} {id : DeclarationId} {declaration : Declaration}
variable {accessor : Accessor} {file later : ClassFile}

/-! ## Class files -/

/-- What the table tells emission to write for a declaration. -/
inductive Configuration.Provides (config : Configuration) (table : Table) (id : DeclarationId)
    (declaration : Declaration) : Option Accessor → Prop where
  | nothing (h : declaration.isGenerated config.accessorName = false) :
      Provides config table id declaration none
  | accessor (accessor : Accessor) (h : declaration.isGenerated config.accessorName = true)
      (haccessor : table.accessor? id = some accessor) (hname : accessor.name = config.accessorName)
      (hshape : ¬declaration.shape.IsRestricted) :
      Provides config table id declaration (some accessor)

/-- The texts that a class file can have in its pool. -/
def Table.fileTexts (table : Table) (declaration : Declaration) (accessor : Option Accessor) :
    List String :=
  table.classTexts declaration ++ (accessor.map ClassFile.accessorTexts).getD []

/-- What the class file of a declaration is like, with an accessor or without one. -/
structure Table.IsClassFile (table : Table) (declaration : Declaration) (accessor : Option Accessor)
    (file : ClassFile) : Prop where
  wellFormed : file.WellFormed
  name : file.pool.classNameAt? file.thisClass = some declaration.name.internalName
  superName : ∃ name, table.superNameOf declaration = .ok name ∧
    file.pool.classNameAt? file.superClass = some name
  interfaces : file.interfaces.Nodup
  methods_le : file.methods.length ≤ 2
  texts : ∀ text, .utf8 text ∈ file.pool → text ∈ table.fileTexts declaration accessor
  without : accessor = none → ∀ name, file.method? name accessorDescriptor = none
  with_accessor : ∀ written, accessor = some written →
    ∃ method, file.method? written.name accessorDescriptor = some method ∧
      method.IsAccessor file declaration.shape written

namespace Table

theorem IsSkeleton.method?_eq_none (h : table.IsSkeleton declaration file) (name : String) :
    file.method? name accessorDescriptor = none := by
  refine List.find?_eq_none.2 ?_
  intro method hmethod
  have hdescriptor : method.descriptor ≠ accessorDescriptor := by
    rw [h.methods method hmethod]
    decide
  simp [hdescriptor]

theorem IsSkeleton.isClassFile (h : table.IsSkeleton declaration file) :
    table.IsClassFile declaration none file where
  wellFormed := h.wellFormed
  name := h.name
  superName := h.superName
  interfaces := h.interfaces
  methods_le := Nat.le_succ_of_le h.methods_le
  texts := fun text hmem => List.mem_append_left _ (h.texts text hmem)
  without := fun _ => h.method?_eq_none
  with_accessor := by
    intro written hwritten
    cases hwritten

theorem IsSkeleton.isClassFile_of_accessorAdded (h : table.IsSkeleton declaration file)
    (hadded : file.AccessorAdded declaration.shape accessor later) :
    table.IsClassFile declaration (some accessor) later := by
  rcases hadded.exists_method with ⟨_, hmethods, _⟩
  have hfound := hadded.hasAccessor
  have hlength : later.methods.length ≤ 2 := by
    rw [hmethods, List.length_append]
    exact Nat.add_le_add_right h.methods_le 1
  rcases hadded with ⟨grown, written, _, hgrows, hresolves, _⟩
  rcases h.superName with ⟨superName, hsuper, hindex⟩
  refine ⟨?_, hgrows.classNameAt?_thisClass h.name,
    ⟨superName, hsuper, hgrows.classNameAt?_superClass hindex⟩, ?_, hlength, ?_, ?_, ?_⟩
  · exact (h.wellFormed.grows hgrows).appendMethod hresolves
  · show grown.interfaces.Nodup
    rw [hgrows.interfaces]
    exact h.interfaces
  · intro text hmem
    rcases hgrows.pool.mem_texts text hmem with hbefore | htext
    · exact List.mem_append_left _ (h.texts text hbefore)
    · exact List.mem_append_right _ htext
  · intro hnone
    cases hnone
  · intro written hwritten
    cases hwritten
    exact hfound

/-- A skeleton has no accessor yet, so that only a full pool can refuse one. -/
theorem IsSkeleton.refused_of_accessorRefused {e : EmitError}
    (h : table.IsSkeleton declaration file)
    (hshape : ¬declaration.shape.IsRestricted)
    (hrefused : file.AccessorRefused declaration.shape accessor e later) :
    table.Refused declaration 13 e := by
  cases hrefused with
  | shape hrestricted =>
      exact absurd hrestricted hshape
  | duplicate later hgrows hmethod =>
      rw [h.method?_eq_none] at hmethod
      cases hmethod
  | full later hgrows hroom =>
      -- Nine entries and those of the interfaces, two for the literal, two for name and descriptor.
      have hsize := h.size_le
      have hname := file.pool.missing_le_one accessor.name
      have hdescriptor := file.pool.missing_le_one accessorDescriptor
      refine .full ?_
      unfold ClassFile.LacksRoom ClassFile.missingAccessor at hroom
      omega

end Table

section

variable {extension : EmitExtension}

theorem emitAll_cons_of_error {e : EmitError} (h : (extension table id file).result = .error e)
    (rest : List EmitExtension) :
    Registry.emitAll table id (extension :: rest) file = extension table id file := by
  rw [Registry.emitAll, h]

theorem emitAll_cons_of_ok (h : (extension table id file).result = .ok ())
    (rest : List EmitExtension) :
    (Registry.emitAll table id (extension :: rest) file).file
        = (Registry.emitAll table id rest (extension table id file).file).file ∧
      (Registry.emitAll table id (extension :: rest) file).result
        = (Registry.emitAll table id rest (extension table id file).file).result := by
  rw [Registry.emitAll, h]
  exact ⟨rfl, rfl⟩

theorem result_of_emitAll_cons {rest : List EmitExtension}
    (h : (Registry.emitAll table id (extension :: rest) file).result = .ok ()) :
    (extension table id file).result = .ok () := by
  cases hresult : (extension table id file).result with
  | error e =>
      rw [emitAll_cons_of_error hresult, hresult] at h
      cases h
  | ok done =>
      rfl

end

theorem emitAll_singleton (table : Table) (id : DeclarationId) (extension : EmitExtension)
    (file : ClassFile) :
    (Registry.emitAll table id [extension] file).file = (extension table id file).file ∧
      (Registry.emitAll table id [extension] file).result = (extension table id file).result := by
  cases hresult : (extension table id file).result with
  | error e =>
      rw [emitAll_cons_of_error hresult]
      exact ⟨rfl, hresult⟩
  | ok done =>
      exact emitAll_cons_of_ok hresult []

/-- The class file that the extensions leave, if neither the skeleton nor one of them fails. -/
theorem classFile_result_emitAll (registry : Registry) (table : Table) (id : DeclarationId)
    (declaration : Declaration) :
    (table.classFile registry id declaration).result
      = table.skeleton declaration >>= fun file =>
          (Registry.emitAll table id registry.emit file).result.map fun _ =>
            (Registry.emitAll table id registry.emit file).file := by
  unfold Table.classFile
  cases table.skeleton declaration with
  | error e =>
      rfl
  | ok file =>
      rfl

/-- There is a class file exactly if there is a skeleton and no extension fails on it. -/
theorem classFile_eq_ok_iff {made : ClassFile} :
    (table.classFile registry id declaration).result = .ok made ↔
      ∃ skeleton, table.skeleton declaration = .ok skeleton ∧
        (Registry.emitAll table id registry.emit skeleton).result = .ok () ∧
        (Registry.emitAll table id registry.emit skeleton).file = made := by
  rw [classFile_result_emitAll, bind_eq_ok_iff]
  refine exists_congr fun skeleton => and_congr_right fun _ => ?_
  cases (Registry.emitAll table id registry.emit skeleton).result with
  | error e =>
      simp [Except.map]
  | ok done =>
      simp [Except.map]

theorem classFile_result (config : Configuration) (table : Table) (id : DeclarationId)
    (declaration : Declaration) :
    (table.classFile config.registry id declaration).result
      = table.skeleton declaration >>= fun file =>
          (config.emit table id file).result.map fun _ => (config.emit table id file).file := by
  have hemit : config.registry.emit = [config.emit] := rfl
  rw [classFile_result_emitAll, hemit]
  refine bind_congr ?_
  intro file
  rcases emitAll_singleton table id config.emit file with ⟨hfile, hresult⟩
  rw [hfile, hresult]

/-- A class file is made as the table says, unless a supertype does not exist or the interfaces fill
the pool: thirteen entries are all that is needed besides two for each interface. -/
theorem yields_classFile (henabled : config.enabled = true)
    (hget : table.get? id = some declaration) {accessor : Option Accessor}
    (hprovides : config.Provides table id declaration accessor) :
    Yields (table.classFile config.registry id declaration).result
      (table.IsClassFile declaration accessor) (table.Refused declaration 13) := by
  rw [classFile_result]
  have hskeleton := table.yields_skeleton declaration
  refine Yields.bind (hskeleton.mono ?_ fun e he => he.mono (by decide))
  intro file hfile
  -- Either emission passes the skeleton on, or it writes the one accessor that the table provides.
  cases hprovides with
  | nothing hgenerated =>
      rw [config.emit_of_not_generated hget hgenerated file]
      exact hfile.isClassFile
  | accessor accessor hgenerated haccessor hname hshape =>
      have hends := config.ends_emit henabled hget hgenerated haccessor hname file
      cases hresult : (config.emit table id file).result with
      | ok done =>
          exact hfile.isClassFile_of_accessorAdded (hends.ok_of_result hresult)
      | error e =>
          exact hfile.refused_of_accessorRefused hshape (hends.refused_of_result hresult)

theorem Table.IsClassFile.exists_of_toBytes_eq_error {accessor : Option Accessor}
    {e : ClassFile.Error} (h : table.IsClassFile declaration accessor file)
    (herror : file.toBytes = .error e) :
    ∃ text ∈ table.fileTexts declaration accessor, IsTooLong text ∧
      e = .textTooLong (ClassFile.ModifiedUtf8.encode text).length := by
  have hmethods : file.methods.length < 65536 := Nat.lt_of_le_of_lt h.methods_le (by decide)
  rcases h.wellFormed.exists_of_toBytes_eq_error h.interfaces hmethods herror with
    ⟨text, hmem, hlong, rfl⟩
  exact ⟨text, h.texts text hmem, hlong, rfl⟩

/-! ## All class files -/

namespace Resolution

variable {registry : Registry} {output final : Output} {items : List (DeclarationId × Declaration)}

/-- An error comes from one declaration, whose class file cannot be made or cannot be written. -/
theorem generate_eq_error {e : FlushError}
    (h : (generate table registry output items).result = .error e) :
    ∃ id declaration, (id, declaration) ∈ items ∧
      ((∃ cause, (table.classFile registry id declaration).result = .error cause ∧
          e = .emit declaration.name cause) ∨
        ∃ file cause, (table.classFile registry id declaration).result = .ok file ∧
          file.toBytes = .error cause ∧ e = .classFile cause) := by
  induction items generalizing output with
  | nil =>
      cases h
  | cons item items ih =>
      rcases item with ⟨id, declaration⟩
      unfold generate at h
      cases hfile : (table.classFile registry id declaration).result with
      | error cause =>
          simp only [hfile] at h
          cases h
          exact ⟨id, declaration, List.mem_cons_self, Or.inl ⟨cause, hfile, rfl⟩⟩
      | ok file =>
          cases hbytes : file.toBytes with
          | error cause =>
              simp only [hfile, hbytes] at h
              cases h
              exact ⟨id, declaration, List.mem_cons_self, Or.inr ⟨file, cause, hfile, hbytes, rfl⟩⟩
          | ok bytes =>
              simp only [hfile, hbytes] at h
              rcases ih h with ⟨id', declaration', hmem, hcause⟩
              exact ⟨id', declaration', List.mem_cons_of_mem _ hmem, hcause⟩

theorem generate_cons_eq_ok
    (h : (generate table registry output ((id, declaration) :: items)).result = .ok final) :
    ∃ file bytes, (table.classFile registry id declaration).result = .ok file ∧
      file.toBytes = .ok bytes ∧
      (generate table registry (output.put file.name bytes) items).result = .ok final := by
  unfold generate at h
  cases hfile : (table.classFile registry id declaration).result with
  | error cause =>
      simp only [hfile] at h
      cases h
  | ok file =>
      cases hbytes : file.toBytes with
      | error cause =>
          simp only [hfile, hbytes] at h
          cases h
      | ok bytes =>
          simp only [hfile, hbytes] at h
          exact ⟨file, bytes, rfl, hbytes, h⟩

/-- The class files of the items have the names of their declarations. -/
def NamesAgree (table : Table) (registry : Registry) (items : List (DeclarationId × Declaration)) :
    Prop :=
  ∀ item ∈ items, ∀ file, (table.classFile registry item.1 item.2).result = .ok file →
    file.name = item.2.name.internalName

/-- What is under a name stays there while no class has that name. -/
theorem find?_of_generate {name : String} (hnames : NamesAgree table registry items)
    (hother : ∀ item ∈ items, item.2.name.internalName ≠ name)
    (h : (generate table registry output items).result = .ok final) :
    final.find? name = output.find? name := by
  induction items generalizing output with
  | nil =>
      cases h
      rfl
  | cons item items ih =>
      rcases item with ⟨id, declaration⟩
      rcases generate_cons_eq_ok h with ⟨file, bytes, hfile, _, hrest⟩
      have hname : file.name ≠ name := by
        rw [hnames (id, declaration) List.mem_cons_self file hfile]
        exact hother (id, declaration) List.mem_cons_self
      have hrest' := ih (fun item hitem => hnames item (List.mem_cons_of_mem _ hitem))
        (fun item hitem => hother item (List.mem_cons_of_mem _ hitem)) hrest
      calc
        final.find? name = (output.put file.name bytes).find? name := hrest'
        _ = output.find? name := by
              rw [Keyed.find?_put, if_neg hname.symm]

/-- The bytes under the name of a class are those of the last declaration with that name. -/
theorem exists_of_generate {before after : List (DeclarationId × Declaration)}
    (hnames : NamesAgree table registry (before ++ (id, declaration) :: after))
    (hlast : ∀ item ∈ after, item.2.name.internalName ≠ declaration.name.internalName)
    (h : (generate table registry output (before ++ (id, declaration) :: after)).result
      = .ok final) :
    ∃ file bytes, (table.classFile registry id declaration).result = .ok file ∧
      file.toBytes = .ok bytes ∧ final.find? declaration.name.internalName = some bytes := by
  -- The items in front do not matter: what they put under the name is replaced.
  induction before generalizing output with
  | nil =>
      rcases generate_cons_eq_ok h with ⟨file, bytes, hfile, hbytes, hrest⟩
      have hname := hnames (id, declaration) List.mem_cons_self file hfile
      have hnames' : NamesAgree table registry after :=
        fun item hitem => hnames item (List.mem_cons_of_mem _ hitem)
      refine ⟨file, bytes, hfile, hbytes, ?_⟩
      rw [find?_of_generate hnames' hlast hrest, Keyed.find?_put, if_pos hname.symm]
  | cons item before ih =>
      rcases item with ⟨first, firstDeclaration⟩
      rcases generate_cons_eq_ok h with ⟨_, _, _, _, hrest⟩
      exact ih (fun item hitem => hnames item (List.mem_cons_of_mem _ hitem)) hrest

end Resolution

end AccessorSynthesis
