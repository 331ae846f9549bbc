import AccessorSynthesis.Proofs.ClassFile.Building
import AccessorSynthesis.Proofs.Declaration.Table
import AccessorSynthesis.Proofs.Synthesis.Derivation

/-!
# Emission — what writing an accessor ends in

* `Method.IsAccessor method file shape accessor` — `method` is what an accessor looks like in the
  class file of a declaration of that shape;
* `ClassFile.HasAccessor file shape accessor` — the class file has such a method;
* `AccessorRefused` — why an accessor is not written, and what is left then;
* `ClassFile.ends_emitAccessor` — one of the two holds after `ClassFile.emitAccessor`;
* `Configuration.ends_emit`, `Configuration.emit_of_not_generated` — what becomes of a declaration
  with an accessor to write, and of one without.
-/

namespace AccessorSynthesis

open ClassFile

/-! ## Accessors as methods -/

/-- A body that returns the text and does nothing else. -/
def ClassFile.MethodBody.Returns (body : MethodBody) (file : ClassFile) (text : String) : Prop :=
  ∃ index, body = ⟨1, 1, [.loading index, .returnReference]⟩ ∧
    file.pool.stringAt? index = some text

/-- The method of an accessor: its access word, name and descriptor, and a body that returns its
literal, or no body on an interface. -/
structure ClassFile.Method.IsAccessor (method : Method) (file : ClassFile) (shape : Shape)
    (accessor : Accessor) : Prop where
  access : method.access = .ofMember accessor.flags
  name : method.name = accessor.name
  descriptor : method.descriptor = accessorDescriptor
  shape_ok : ¬shape.IsRestricted
  abstract : shape = .interface → method.body = none
  concrete : shape = .plainClass ∨ shape = .object →
    ∃ body, method.body = some body ∧ body.Returns file accessor.literal

theorem ClassFile.Method.IsAccessor.extends {method : Method} {file later : ClassFile} {shape : Shape}
    {accessor : Accessor} (h : method.IsAccessor file shape accessor)
    (hpool : file.pool.Extends later.pool) : method.IsAccessor later shape accessor where
  access := h.access
  name := h.name
  descriptor := h.descriptor
  shape_ok := h.shape_ok
  abstract := h.abstract
  concrete := by
    intro hshape
    rcases h.concrete hshape with ⟨body, hbody, index, hreturns, htext⟩
    exact ⟨body, hbody, index, hreturns, hpool.stringAt? htext⟩

/-- The class file has the method of the accessor. -/
def ClassFile.HasAccessor (file : ClassFile) (shape : Shape) (accessor : Accessor) : Prop :=
  ∃ method, file.method? accessor.name accessorDescriptor = some method ∧
    method.IsAccessor file shape accessor

namespace Emission

/-- The emission ends well with a class file for which `ok` holds, or with an error and a class file
for which `refused` holds. -/
def Ends (emission : Emission) (ok : ClassFile → Prop) (refused : EmitError → ClassFile → Prop) :
    Prop :=
  match emission.result with
  | .ok () => ok emission.file
  | .error e => refused e emission.file

variable {emission : Emission} {ok : ClassFile → Prop} {refused : EmitError → ClassFile → Prop}

theorem Ends.ok_of_result (h : emission.Ends ok refused) (hresult : emission.result = .ok ()) :
    ok emission.file := by
  unfold Ends at h
  rw [hresult] at h
  exact h

theorem Ends.refused_of_result {e : EmitError} (h : emission.Ends ok refused)
    (hresult : emission.result = .error e) : refused e emission.file := by
  unfold Ends at h
  rw [hresult] at h
  exact h

theorem Ends.state {p : ClassFile → Prop} (h : emission.Ends p fun _ => p) : p emission.file := by
  cases hresult : emission.result with
  | ok done =>
      exact h.ok_of_result hresult
  | error e =>
      exact h.refused_of_result hresult

theorem Ends.mono {ok' : ClassFile → Prop} {refused' : EmitError → ClassFile → Prop}
    (h : emission.Ends ok refused) (hok : ∀ file, ok file → ok' file)
    (hrefused : ∀ e file, refused e file → refused' e file) : emission.Ends ok' refused' := by
  unfold Ends
  cases hresult : emission.result with
  | ok done =>
      exact hok _ (h.ok_of_result hresult)
  | error e =>
      exact hrefused e _ (h.refused_of_result hresult)

end Emission

namespace ClassFile

/-- How many entries the pool may lack for an accessor: two for its literal, and those for the
attribute of its body, for its name and for its descriptor. -/
def missingAccessor (file : ClassFile) (accessor : Accessor) : Nat :=
  2 + (file.pool.missing codeAttribute
    + (file.pool.missing accessor.name + file.pool.missing accessorDescriptor))

/-- The texts of an accessor. -/
def accessorTexts (accessor : Accessor) : List String :=
  [accessor.literal, codeAttribute, accessor.name, accessorDescriptor]

/-- The class file once an accessor is written: pool entries and one method are new. -/
inductive AccessorAdded (file : ClassFile) (shape : Shape) (accessor : Accessor) :
    ClassFile → Prop where
  | intro (grown : ClassFile) (method : Method)
      (hnew : file.method? accessor.name accessorDescriptor = none)
      (hgrows : Grows file grown (file.missingAccessor accessor) (accessorTexts accessor))
      (hresolves : method.Resolves grown) (haccessor : method.IsAccessor grown shape accessor) :
      AccessorAdded file shape accessor { grown with methods := grown.methods ++ [method] }

theorem AccessorAdded.exists_method {file later : ClassFile} {shape : Shape} {accessor : Accessor}
    (h : AccessorAdded file shape accessor later) :
    ∃ method, later.methods = file.methods ++ [method] ∧ method.IsAccessor later shape accessor := by
  rcases h with ⟨grown, method, hnew, hgrows, hresolves, haccessor⟩
  refine ⟨method, ?_, ?_⟩
  · rw [hgrows.methods]
  · exact ⟨haccessor.access, haccessor.name, haccessor.descriptor, haccessor.shape_ok,
      haccessor.abstract, haccessor.concrete⟩

/-- The search for the accessor passes over the methods that were there and ends at the new one. -/
theorem AccessorAdded.hasAccessor {file later : ClassFile} {shape : Shape} {accessor : Accessor}
    (h : AccessorAdded file shape accessor later) : later.HasAccessor shape accessor := by
  rcases h.exists_method with ⟨method, hmethods, haccessor⟩
  rcases h with ⟨grown, _, hnew, _, _, _⟩
  refine ⟨method, ?_, haccessor⟩
  unfold method? at hnew ⊢
  rw [hmethods, List.find?_append, hnew]
  simp [haccessor.name, haccessor.descriptor]

/-- Why an accessor is not written, and what is left then. -/
inductive AccessorRefused (file : ClassFile) (shape : Shape) (accessor : Accessor) :
    EmitError → ClassFile → Prop where
  | shape (h : shape.IsRestricted) :
      AccessorRefused file shape accessor (.unexpectedShape file.name) file
  | duplicate (later : ClassFile) (h : Grows file later 2 [accessor.literal])
      (hmethod : (file.method? accessor.name accessorDescriptor).isSome = true) :
      AccessorRefused file shape accessor
        (.classFile (.duplicateMethod accessor.name accessorDescriptor)) later
  | full (later : ClassFile)
      (h : Grows file later (file.missingAccessor accessor) (accessorTexts accessor))
      (hroom : file.LacksRoom (file.missingAccessor accessor)) :
      AccessorRefused file shape accessor (.classFile .poolFull) later

/-- On a shape that can have an accessor, only the class file can refuse one. -/
theorem AccessorRefused.exists_cause {file later : ClassFile} {shape : Shape} {accessor : Accessor}
    {e : EmitError} (h : AccessorRefused file shape accessor e later)
    (hshape : ¬shape.IsRestricted) : ∃ cause, e = .classFile cause := by
  cases h with
  | shape hrestricted =>
      exact absurd hrestricted hshape
  | duplicate later hgrows hmethod =>
      exact ⟨_, rfl⟩
  | full later hgrows hroom =>
      exact ⟨_, rfl⟩

theorem ends_addAccessor {file : ClassFile} {accessor : Accessor} {body : Option MethodBody}
    {ok : ClassFile → Prop} {refused : EmitError → ClassFile → Prop}
    (h : Ends (addMethod (.ofMember accessor.flags) accessor.name accessorDescriptor body) file
      (fun _ => ok) (fun e => refused (.classFile e))) :
    (file.addAccessor accessor body).Ends ok refused := by
  -- Apart from the log, an accessor is added as any other method is.
  have hfile : (file.addAccessor accessor body).file
      = (addMethod (.ofMember accessor.flags) accessor.name accessorDescriptor body file).2 := rfl
  have hresult : (file.addAccessor accessor body).result
      = (addMethod (.ofMember accessor.flags) accessor.name accessorDescriptor body
          file).1.mapError .classFile := rfl
  unfold Emission.Ends
  rw [hfile, hresult]
  rcases heq : addMethod (.ofMember accessor.flags) accessor.name accessorDescriptor body file with
    ⟨result, later⟩
  cases result with
  | ok done =>
      exact h.ok_of_eq heq
  | error e =>
      exact h.refused_of_eq heq

theorem isSize_returning (index : UInt16) :
    MethodBody.IsSize (MethodBody.size ⟨1, 1, [.loading index, .returnReference]⟩) := by
  unfold Instruction.loading
  split
  · exact (show MethodBody.IsSize 3 by decide)
  · exact (show MethodBody.IsSize 4 by decide)

theorem emitAccessor_of_hasCode {shape : Shape} (hshape : shape = .plainClass ∨ shape = .object)
    (file : ClassFile) (accessor : Accessor) :
    file.emitAccessor shape accessor = match loadString accessor.literal file with
      | (.error e, later) => ⟨later, [], .error (.classFile e)⟩
      | (.ok load, later) => later.addAccessor accessor (some ⟨1, 1, [load, .returnReference]⟩) := by
  rcases hshape with rfl | rfl <;> rfl

/-- What writing an accessor on a declaration with code ends in. -/
theorem ends_emitAccessor_concrete {shape : Shape} (hshape : shape = .plainClass ∨ shape = .object)
    (file : ClassFile) (accessor : Accessor) :
    (file.emitAccessor shape accessor).Ends (AccessorAdded file shape accessor)
      (AccessorRefused file shape accessor) := by
  have hload := ends_loadString accessor.literal file
  have hemit := emitAccessor_of_hasCode hshape file accessor
  rcases heq : loadString accessor.literal file with ⟨e | load, loaded⟩
  · rw [hemit, heq]
    rcases hload.refused_of_eq heq with ⟨hgrows, rfl, hroom⟩
    have hmost : 2 ≤ file.missingAccessor accessor := Nat.le_add_right 2 _
    exact .full loaded (hgrows.mono hmost (by simp [accessorTexts])) (hroom.mono hmost)
  rw [hemit, heq]
  rcases hload.ok_of_eq heq with ⟨hloaded, index, rfl, hindex⟩
  -- The literal may be one of the texts that the method needs, so the pool lacks no more of them.
  have hcode := hloaded.pool.stable.missing_le codeAttribute
  have hname := hloaded.pool.stable.missing_le accessor.name
  have hdescriptor := hloaded.pool.stable.missing_le accessorDescriptor
  have hmost : 2 + loaded.missingMethod accessor.name accessorDescriptor
      (some ⟨1, 1, [.loading index, .returnReference]⟩) ≤ file.missingAccessor accessor := by
    unfold missingMethod missingCode missingAccessor
    simp only [Option.isSome_some, if_true]
    omega
  refine ends_addAccessor ((ends_addMethod _ _ _ _ loaded).mono ?_ ?_)
  · rintro ⟨⟩ later ⟨grown, nameIndex, descriptorIndex, hnew, hgrows, hresolves⟩
    refine .intro grown _ ?_ ((hloaded.trans hgrows).mono hmost fun _ => id) hresolves ?_
    · rwa [hloaded.method?_eq] at hnew
    · refine ⟨rfl, rfl, rfl, ?_, ?_, fun _ => ⟨_, rfl, index, rfl, ?_⟩⟩
      · rcases hshape with rfl | rfl <;> decide
      · rcases hshape with rfl | rfl <;> simp
      · exact hgrows.pool.stable.stringAt? hindex
  · intro e later hrefused
    cases hrefused with
    | duplicate hmethod =>
        refine .duplicate _ hloaded ?_
        rwa [hloaded.method?_eq] at hmethod
    | badLength b hbody hsize =>
        cases hbody
        exact absurd (isSize_returning index) hsize
    | full later hgrows hroom =>
        have hlacks := (hloaded.lacksRoom hroom).mono hmost
        exact .full later ((hloaded.trans hgrows).mono hmost fun _ => id) hlacks

/-- Writing an accessor adds its method, or fails for one of three causes. -/
theorem ends_emitAccessor (file : ClassFile) (shape : Shape) (accessor : Accessor) :
    (file.emitAccessor shape accessor).Ends (AccessorAdded file shape accessor)
      (AccessorRefused file shape accessor) := by
  have hsubset : ∀ text ∈ [codeAttribute, accessor.name, accessorDescriptor],
      text ∈ accessorTexts accessor := fun text => List.mem_cons_of_mem _
  cases shape with
  | interface =>
      -- Without a body neither the literal nor the name of the attribute is needed.
      have hmost : file.missingMethod accessor.name accessorDescriptor none
          ≤ file.missingAccessor accessor := by
        unfold missingMethod missingCode missingAccessor
        simp only [Option.isSome_none, Bool.false_eq_true, if_false]
        omega
      refine ends_addAccessor ((ends_addMethod _ _ _ none file).mono ?_ ?_)
      · rintro ⟨⟩ later ⟨grown, nameIndex, descriptorIndex, hnew, hgrows, hresolves⟩
        refine .intro grown _ hnew (hgrows.mono hmost hsubset) hresolves ?_
        exact ⟨rfl, rfl, rfl, by decide, fun _ => rfl, by simp⟩
      · intro e later hrefused
        cases hrefused with
        | duplicate hmethod =>
            exact .duplicate file ((Grows.refl file).mono (Nat.zero_le 2) (by simp)) hmethod
        | badLength b hbody hsize =>
            cases hbody
        | full later hgrows hroom =>
            exact .full later (hgrows.mono hmost hsubset) (hroom.mono hmost)
  | plainClass =>
      exact ends_emitAccessor_concrete (Or.inl rfl) file accessor
  | object =>
      exact ends_emitAccessor_concrete (Or.inr rfl) file accessor
  | valueAggregate | wrapper =>
      exact .shape (by decide)

end ClassFile

/-! ## Emission of a declaration -/

namespace Configuration

variable {config : Configuration} {table : Table} {id : DeclarationId} {declaration : Declaration}

theorem emit_of_not_generated (hget : table.get? id = some declaration)
    (hgenerated : declaration.isGenerated config.accessorName = false) (file : ClassFile) :
    config.emit table id file = ⟨file, [], .ok ()⟩ := by
  unfold Declaration.isGenerated at hgenerated
  unfold emit
  by_cases henabled : config.enabled = true
  · simp [henabled, hget, hgenerated]
  · simp [henabled]

/-- A generated member whose accessor is not registered is reported, and the class file stays as it
is. -/
theorem emit_of_missing (henabled : config.enabled = true) (hget : table.get? id = some declaration)
    (hgenerated : declaration.isGenerated config.accessorName = true)
    (hother : ∀ accessor, table.accessor? id = some accessor →
      accessor.name ≠ config.accessorName) (file : ClassFile) :
    config.emit table id file
      = ⟨file, [], .error (.missingAccessor declaration.name config.accessorName)⟩ := by
  have hnone : (table.accessor? id).filter (fun accessor => accessor.name = config.accessorName)
      = none := by
    refine Option.filter_eq_none_iff.2 fun accessor haccessor => ?_
    simpa using hother accessor haccessor
  unfold Declaration.isGenerated at hgenerated
  unfold emit
  simp [henabled, hget, hgenerated, hnone]

/-- Apart from the log, a declaration's accessor is written as `ClassFile.emitAccessor` does it. -/
theorem emit_of_accessor? {accessor : Accessor} (henabled : config.enabled = true)
    (hget : table.get? id = some declaration)
    (hgenerated : declaration.isGenerated config.accessorName = true)
    (haccessor : table.accessor? id = some accessor) (hname : accessor.name = config.accessorName)
    (file : ClassFile) :
    (config.emit table id file).file = (file.emitAccessor declaration.shape accessor).file ∧
      (config.emit table id file).result
        = (file.emitAccessor declaration.shape accessor).result := by
  unfold Declaration.isGenerated at hgenerated
  unfold emit
  simp only [henabled, hget, hgenerated, haccessor, Option.filter_some, hname, decide_true, if_true,
    Bool.not_true, Bool.false_eq_true, if_false]
  cases hresult : (file.emitAccessor declaration.shape accessor).result with
  | ok done =>
      exact ⟨rfl, hresult⟩
  | error e =>
      exact ⟨rfl, rfl⟩

theorem ends_emit {accessor : Accessor} (henabled : config.enabled = true)
    (hget : table.get? id = some declaration)
    (hgenerated : declaration.isGenerated config.accessorName = true)
    (haccessor : table.accessor? id = some accessor) (hname : accessor.name = config.accessorName)
    (file : ClassFile) :
    (config.emit table id file).Ends (ClassFile.AccessorAdded file declaration.shape accessor)
      (ClassFile.AccessorRefused file declaration.shape accessor) := by
  have hwritten := ClassFile.ends_emitAccessor file declaration.shape accessor
  rcases emit_of_accessor? henabled hget hgenerated haccessor hname file with ⟨hfile, hresult⟩
  unfold Emission.Ends at hwritten ⊢
  rw [hfile, hresult]
  exact hwritten

/-- Where an accessor was to be written and that went well, the table provided it. -/
theorem exists_accessor_of_emit {file : ClassFile} (henabled : config.enabled = true)
    (hget : table.get? id = some declaration)
    (hgenerated : declaration.isGenerated config.accessorName = true)
    (hresult : (config.emit table id file).result = .ok ()) :
    ∃ accessor, table.accessor? id = some accessor ∧ accessor.name = config.accessorName := by
  unfold Declaration.isGenerated at hgenerated
  unfold emit at hresult
  cases hfound : (table.accessor? id).filter fun accessor => accessor.name = config.accessorName with
  | none =>
      simp [henabled, hget, hgenerated, hfound] at hresult
  | some accessor =>
      rcases Option.filter_eq_some_iff.1 hfound with ⟨haccessor, hname⟩
      exact ⟨accessor, haccessor, of_decide_eq_true hname⟩

end Configuration

end AccessorSynthesis
