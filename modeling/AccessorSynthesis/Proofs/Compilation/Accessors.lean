import AccessorSynthesis.Proofs.ClassFile.RoundTrip
import AccessorSynthesis.Proofs.Compilation.Extensions
import AccessorSynthesis.Proofs.Compilation.Outcome

/-!
# Accessors — what the class files of a compilation contain

`accessor_of_flush` follows an accessor all the way: from the hierarchy of the declarations through
resolution, generation and the stored form to what a reader of the class file finds.
-/

namespace AccessorSynthesis

open ClassFile (Instruction MethodBody accessorDescriptor)

variable {config : Configuration} {start table : Table} {id : DeclarationId}
variable {declaration found : Declaration} {output : Output} {file : ClassFile}

namespace Configuration

/-- Where no error was reported, accessors are granted to all that inherit the annotation and did
not declare a member of the name. -/
theorem grant?_isSome_iff (hmem : (id, declaration) ∈ start.compiled)
    (hsupported : ∀ item ∈ start.compiled,
      ¬(start.Inherits item.1 config.mark ∧ item.2.shape.IsRestricted)) :
    (config.grant? start id declaration).isSome = true ↔
      start.Inherits id config.mark ∧ declaration.members.find? config.accessorName = none := by
  unfold grant?
  constructor
  · intro h
    split at h
    · rename_i hgrant
      exact ⟨hgrant.1, hgrant.2.2⟩
    · cases h
  · rintro ⟨hmark, hfree⟩
    have hshape : ¬declaration.shape.IsRestricted :=
      fun hrestricted => hsupported (id, declaration) hmem ⟨hmark, hrestricted⟩
    rw [if_pos ⟨hmark, hshape, hfree⟩]
    rfl

theorem eq_accessorOf_of_grant? {accessor : Accessor}
    (h : config.grant? start id declaration = some accessor) :
    accessor = config.accessorOf id declaration := by
  unfold grant? at h
  split at h
  · exact (Option.some.inj h).symm
  · cases h

/-- If there is output, no error was reported and the output is what was generated. -/
theorem generate_of_flush {resolution : Resolution} {registry : Registry}
    (h : (resolution.flush registry).result = .ok output) :
    resolution.diagnostics.hasFatal = false ∧
      (Resolution.generate resolution.table registry .empty resolution.table.compiled).result
        = .ok output := by
  have hfatal : resolution.diagnostics.hasFatal = false := by
    refine Bool.eq_false_iff.2 ?_
    intro hfatal
    rw [flush_eq_fatal_iff.2 hfatal] at h
    cases h
  refine ⟨hfatal, ?_⟩
  rw [flush_of_not_hasFatal hfatal] at h
  exact h

/-- If there is output, whoever inherits the annotation can have an accessor. -/
theorem not_isRestricted_of_flush (henabled : config.enabled = true)
    (hfresh : start.IsFresh config.accessorName) {passes : Nat} (hpasses : 1 ≤ passes)
    (h : ((start.resolve (config.install .empty).1 passes).flush
      (config.install .empty).1).result = .ok output) :
    ∀ item ∈ start.compiled, ¬(start.Inherits item.1 config.mark ∧ item.2.shape.IsRestricted) := by
  intro item hitem hrestricted
  have hreported := (hasFatal_resolve_iff henabled hfresh hpasses).2 ⟨item, hitem, hrestricted⟩
  rw [(generate_of_flush h).1] at hreported
  cases hreported

/-- The bytes of a declaration are those of a class file made as the table at the start says. -/
theorem exists_isClassFile (henabled : config.enabled = true)
    (hfresh : start.IsFresh config.accessorName)
    (h : config.Progress start (start.compiled.map Prod.fst) table)
    (houtput : (Resolution.generate table config.registry .empty table.compiled).result = .ok output)
    (hmem : (id, declaration) ∈ start.compiled)
    (hlast : ∀ later other, (later, other) ∈ start.compiled → id < later →
      other.name.internalName ≠ declaration.name.internalName) :
    ∃ found file bytes, found.header = declaration.header ∧
      table.IsClassFile found (config.grant? start id declaration) file ∧
      file.toBytes = .ok bytes ∧ output.find? declaration.name.internalName = some bytes := by
  rcases h.sameHeaders.exists_last hmem hlast with ⟨found, before, after, hsplit, hheader, hafter⟩
  have hname := Declaration.eq_of_header Declaration.name (fun _ => rfl) hheader
  have hget : table.get? id = some found :=
    table.get?_of_mem_compiled (id, found) (hsplit ▸ List.mem_append_cons_self)
  rcases h.exists_compiled hfresh hmem with ⟨same, hsame, _, hprovides⟩
  have hequal : found = same :=
    Option.some.inj (hget.symm.trans (table.get?_of_mem_compiled (id, same) hsame))
  subst hequal
  have hnames := Resolution.namesAgree config.makesCalls_registry table table.compiled
  rw [hsplit] at hnames houtput
  rcases Resolution.exists_of_generate hnames hafter houtput with ⟨file, bytes, hfile, hbytes, hfind⟩
  have hmade := yields_classFile henabled hget hprovides
  rw [hname] at hfind
  exact ⟨found, file, bytes, hheader, hmade.ok_of_eq hfile, hbytes, hfind⟩

/-- A class file has the accessor's method exactly if the accessor is granted. -/
theorem isSome_method?_iff
    (h : table.IsClassFile found (config.grant? start id declaration) file) :
    (file.method? config.accessorName accessorDescriptor).isSome = true ↔
      (config.grant? start id declaration).isSome = true := by
  cases hgrant : config.grant? start id declaration with
  | none =>
      rw [hgrant] at h
      simp [h.without rfl]
  | some accessor =>
      rw [hgrant] at h
      rcases h.with_accessor accessor rfl with ⟨method, hfound, _⟩
      rw [eq_accessorOf_of_grant? hgrant] at hfound
      have hmethod : file.method? config.accessorName accessorDescriptor = some method := hfound
      rw [hmethod]
      exact Iff.rfl

theorem isAccessor_of_method? {method : ClassFile.Method}
    (h : table.IsClassFile found (config.grant? start id declaration) file)
    (hmethod : file.method? config.accessorName accessorDescriptor = some method) :
    method.IsAccessor file found.shape (config.accessorOf id declaration) := by
  have hsome : (config.grant? start id declaration).isSome = true := by
    rw [← isSome_method?_iff h, hmethod]
    rfl
  rcases Option.isSome_iff_exists.1 hsome with ⟨accessor, hgrant⟩
  rw [hgrant] at h
  rcases h.with_accessor accessor rfl with ⟨written, hwritten, haccessor⟩
  rw [eq_accessorOf_of_grant? hgrant] at hwritten haccessor
  have hsame : written = method := Option.some.inj (hwritten.symm.trans hmethod)
  rw [← hsame]
  exact haccessor

end Configuration

namespace Configuration

/-- A condition on a table under which nothing stands in the way of its output: all supertypes exist,
no declaration is of a restricted shape or has a great many interfaces, and no text is too long. -/
structure Fits (config : Configuration) (table : Table) : Prop where
  shapes : ∀ item ∈ table.compiled, ¬item.2.shape.IsRestricted
  supertypes : ∀ item ∈ table.compiled, ∀ super ∈ item.2.supertypes,
    (table.nameOf? super).any fun name => decide ¬ClassFile.IsTooLong name
  interfaces : ∀ item ∈ table.compiled, item.2.interfaces.length ≤ 32760
  names : ∀ item ∈ table.compiled, ¬ClassFile.IsTooLong item.2.name.internalName
  literals : ∀ item ∈ table.compiled, ¬ClassFile.IsTooLong (config.literal item.2)
  accessorName : ¬ClassFile.IsTooLong config.accessorName

theorem Fits.not_isTooLong {text : String} (h : config.Fits start)
    (hmem : (id, declaration) ∈ start.compiled) (htext : config.HasText start id declaration text) :
    ¬ClassFile.IsTooLong text := by
  cases htext with
  | ofClass =>
      exact h.names (id, declaration) hmem
  | ofSupertype super name hsuper hname =>
      have hshort := h.supertypes (id, declaration) hmem super hsuper
      rw [hname] at hshort
      exact of_decide_eq_true hshort
  | ofName accessor hgrant =>
      rw [eq_accessorOf_of_grant? hgrant]
      exact h.accessorName
  | ofLiteral accessor hgrant =>
      rw [eq_accessorOf_of_grant? hgrant]
      exact h.literals (id, declaration) hmem

theorem Fits.not_flushRefused (h : config.Fits start) (e : FlushError) :
    ¬config.FlushRefused start e := by
  intro hrefused
  cases hrefused with
  | dangling id super declaration hmem hsuper hget =>
      have hshort := h.supertypes (id, declaration) hmem super hsuper
      simp [Table.nameOf?, hget] at hshort
  | full id declaration hmem hinterfaces =>
      exact absurd hinterfaces (Nat.not_lt.2 (h.interfaces (id, declaration) hmem))
  | tooLong id declaration text hmem htext hlong =>
      exact h.not_isTooLong hmem htext hlong

theorem Fits.exists_flush (h : config.Fits start) (henabled : config.enabled = true)
    (hfresh : start.IsFresh config.accessorName) {passes : Nat} (hpasses : 1 ≤ passes) :
    ∃ output, ((start.resolve (config.install .empty).1 passes).flush
      (config.install .empty).1).result = .ok output := by
  -- No declaration is restricted, so that nothing fatal is reported; and no cause of a failure applies.
  have hfatal : (start.resolve (config.install .empty).1 passes).diagnostics.hasFatal = false := by
    refine Bool.eq_false_iff.2 ?_
    intro hreported
    rcases (hasFatal_resolve_iff henabled hfresh hpasses).1 hreported with
      ⟨item, hitem, _, hrestricted⟩
    exact h.shapes item hitem hrestricted
  have hyields := yields_flush henabled hfresh hpasses hfatal
  cases hflush : ((start.resolve (config.install .empty).1 passes).flush
      (config.install .empty).1).result with
  | error e =>
      exact absurd (hyields.refused_of_eq hflush) (h.not_flushRefused e)
  | ok output =>
      exact ⟨output, rfl⟩

end Configuration

end AccessorSynthesis
