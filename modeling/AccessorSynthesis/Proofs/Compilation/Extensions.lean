import AccessorSynthesis.Proofs.Compilation.Generation

/-!
# Extensions — what extensions leave of a class file

The extension that writes accessors is one of those that do nothing to a class file but call the
operations for it.  This file defines

* `EmitExtension.MakesCalls extension` — the extension makes calls, which may depend on everything
  that it is given;
* `Registry.MakesCalls registry` — all its extensions do.

A class file then is a skeleton after some calls (`Table.exists_skeleton_of_classFile`), which has
the name of its declaration whatever the calls are (`Resolution.namesAgree`).
-/

namespace AccessorSynthesis

open ClassFile (Call)

/-- The extension does no more to a class file than make calls. -/
def EmitExtension.MakesCalls (extension : EmitExtension) : Prop :=
  ∀ table id file, ∃ calls : List Call, (extension table id file).file = file.afterCalls calls

/-- All extensions that work on class files make calls and do nothing else to them. -/
def Registry.MakesCalls (registry : Registry) : Prop :=
  ∀ extension ∈ registry.emit, EmitExtension.MakesCalls extension

/-- Writing an accessor is one call. -/
theorem Configuration.makesCalls_emit (config : Configuration) :
    EmitExtension.MakesCalls config.emit := by
  intro table id file
  unfold emit
  split
  · exact ⟨[], rfl⟩
  · split
    · exact ⟨[], rfl⟩
    · rename_i declaration hget
      dsimp only
      split
      · exact ⟨[], rfl⟩
      · split
        · exact ⟨[], rfl⟩
        · rename_i accessor haccessor
          refine ⟨[.emitAccessor declaration.shape accessor], ?_⟩
          split <;> rfl

theorem Configuration.makesCalls_registry (config : Configuration) : config.registry.MakesCalls := by
  intro extension hextension
  rw [List.mem_singleton.1 hextension]
  exact config.makesCalls_emit

namespace Registry

theorem makesCalls_ofConfigurations (configs : List Configuration) :
    (ofConfigurations configs).MakesCalls := by
  intro extension hextension
  rw [ofConfigurations_eq] at hextension
  rcases List.mem_map.1 hextension with ⟨config, _, rfl⟩
  exact config.makesCalls_emit

theorem exists_calls_of_emitAll {extensions : List EmitExtension}
    (h : ∀ extension ∈ extensions, EmitExtension.MakesCalls extension) (table : Table)
    (id : DeclarationId) (file : ClassFile) :
    ∃ calls, (emitAll table id extensions file).file = file.afterCalls calls := by
  induction extensions generalizing file with
  | nil =>
      exact ⟨[], rfl⟩
  | cons extension rest ih =>
      rcases h extension List.mem_cons_self table id file with ⟨calls, hcalls⟩
      cases hresult : (extension table id file).result with
      | error e =>
          rw [emitAll_cons_of_error hresult]
          exact ⟨calls, hcalls⟩
      | ok done =>
          rcases ih (fun other hother => h other (List.mem_cons_of_mem extension hother))
            (file.afterCalls calls) with ⟨later, hlater⟩
          refine ⟨calls ++ later, ?_⟩
          rw [(emitAll_cons_of_ok hresult rest).1, hcalls]
          exact hlater.trans List.foldl_append.symm

end Registry

variable {registry : Registry} {table : Table} {id : DeclarationId} {declaration : Declaration}
variable {file : ClassFile}

namespace Table

/-- A class file is a skeleton on which the extensions made their calls. -/
theorem exists_skeleton_of_classFile (hregistry : registry.MakesCalls)
    (h : (table.classFile registry id declaration).result = .ok file) :
    ∃ skeleton calls, table.IsSkeleton declaration skeleton ∧ file = skeleton.afterCalls calls := by
  rcases classFile_eq_ok_iff.1 h with ⟨skeleton, hskeleton, _, rfl⟩
  rcases Registry.exists_calls_of_emitAll hregistry table id skeleton with ⟨calls, hcalls⟩
  exact ⟨skeleton, calls, (table.yields_skeleton declaration).ok_of_eq hskeleton, hcalls⟩

theorem wellFormed_of_classFile (hregistry : registry.MakesCalls)
    (h : (table.classFile registry id declaration).result = .ok file) : file.WellFormed := by
  rcases exists_skeleton_of_classFile hregistry h with ⟨skeleton, calls, hskeleton, rfl⟩
  exact hskeleton.wellFormed.afterCalls calls

theorem name_of_classFile (hregistry : registry.MakesCalls)
    (h : (table.classFile registry id declaration).result = .ok file) :
    file.name = declaration.name.internalName := by
  rcases exists_skeleton_of_classFile hregistry h with ⟨skeleton, calls, hskeleton, rfl⟩
  have hname : (skeleton.afterCalls calls).pool.classNameAt? (skeleton.afterCalls calls).thisClass
      = some declaration.name.internalName :=
    ClassFile.afterCalls_of_leaves (fun hleaves => hleaves.classNameAt?_thisClass) hskeleton.name
      calls
  unfold ClassFile.name
  rw [hname]
  rfl

end Table

/-- No call renames a class. -/
theorem Resolution.namesAgree (hregistry : registry.MakesCalls) (table : Table)
    (items : List (DeclarationId × Declaration)) : NamesAgree table registry items :=
  fun _ _ _ hfile => Table.name_of_classFile hregistry hfile

end AccessorSynthesis
