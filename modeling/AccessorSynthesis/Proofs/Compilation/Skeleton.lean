import AccessorSynthesis.Compilation.Skeleton
import AccessorSynthesis.Proofs.ClassFile.Invariant
import AccessorSynthesis.Proofs.Refusable

/-!
# Skeleton — what a class file is before extensions see it

This file defines

* `Table.classTexts table declaration` — the texts that a skeleton can have in its pool;
* `Table.IsSkeleton table declaration file` — what later steps may rely on, above all how much room
  the pool has left;
* `Table.Refused table declaration most` — why there may be no class file.

The pool is counted in entries: four for the names of the class and its superclass, two for each
interface, and for a constructor four for the call and one for the attribute of its body
(`yields_skeleton`).
-/

namespace AccessorSynthesis

open ClassFile (AccessFlags ConstantPool Update constructorName constructorDescriptor codeAttribute)

/-! ## Constructors -/

namespace ClassFile

variable {file : ClassFile}

theorem perform_eq {α : Type} (file : ClassFile) (change : Update ClassFile α) :
    file.perform change = match change file with
      | (.ok a, later) => .ok (a, later)
      | (.error cause, _) => .error (.classFile cause) :=
  rfl

theorem yields_perform {α : Type} {change : Update ClassFile α} {ok : α → ClassFile → Prop}
    {refused : Error → ClassFile → Prop} (h : Ends change file ok refused) :
    Yields (file.perform change) (fun made => ok made.1 made.2)
      (fun e => ∃ cause later, e = .classFile cause ∧ refused cause later) := by
  rw [perform_eq]
  rcases heq : change file with ⟨cause | a, later⟩
  · exact ⟨cause, later, rfl, h.refused_of_eq heq⟩
  · exact h.ok_of_eq heq

/-- The class file once a constructor is added, which is the only method. -/
inductive ConstructorAdded (file : ClassFile) (superName : String) : ClassFile → Prop where
  | intro (grown : ClassFile) (method : Method) (hname : method.name = constructorName)
      (hdescriptor : method.descriptor = constructorDescriptor)
      (hgrows : Grows file grown 5 [constructorName, constructorDescriptor, codeAttribute])
      (hresolves : method.Resolves grown) (hbody : method.body.isSome = true) :
      ConstructorAdded file superName { grown with methods := [method] }

theorem isSize_constructor (index : UInt16) :
    MethodBody.IsSize (MethodBody.size ⟨1, 1, [.loadThis, .invokeSpecial index, .returnVoid]⟩) :=
  (show MethodBody.IsSize 5 by decide)

/-- Only a full pool refuses the first constructor. -/
theorem ends_addConstructor {superName : String} (hmethods : file.methods = [])
    (hsuper : file.pool.classNameAt? file.superClass = some superName) :
    Ends (addConstructor superName) file (fun _ => ConstructorAdded file superName)
      (fun e _ => e = .poolFull ∧ file.LacksRoom 5) := by
  refine Ends.bind ((ends_onPool (ConstantPool.achieves_addMethodRef_of_class hsuper)).mono ?_ ?_)
  · rintro index called ⟨hcalled, hmethod⟩
    rcases ConstantPool.methodRefAt?_eq_some_iff.1 hmethod with
      ⟨owner, pair, name, descriptor, _, _, _, hname, hdescriptor⟩
    have hmissing : called.missingMethod constructorName constructorDescriptor
        (some ⟨1, 1, [.loadThis, .invokeSpecial index, .returnVoid]⟩) ≤ 1 := by
      -- The call already needs the name and the descriptor.
      unfold missingMethod
      rw [ConstantPool.missing_eq_zero hname, ConstantPool.missing_eq_zero hdescriptor]
      exact called.pool.missing_le_one codeAttribute
    refine (ends_addMethod _ _ _ _ called).mono ?_ ?_
    · rintro ⟨⟩ later ⟨grown, nameIndex, descriptorIndex, _, hgrows, hresolves⟩
      have hnone : grown.methods = [] := by
        rw [hgrows.methods, hcalled.methods, hmethods]
      rw [hnone]
      refine .intro grown _ rfl rfl ((hcalled.trans hgrows).mono ?_ ?_) hresolves rfl
      · exact Nat.add_le_add_left hmissing 4
      · simp
    · intro e later hrefused
      cases hrefused with
      | duplicate hduplicate =>
          unfold method? at hduplicate
          rw [hcalled.methods, hmethods] at hduplicate
          cases hduplicate
      | badLength body hbody hsize =>
          cases hbody
          exact absurd (isSize_constructor index) hsize
      | full later hgrows hroom =>
          exact ⟨rfl, (hcalled.lacksRoom hroom).mono (Nat.add_le_add_left hmissing 4)⟩
  · rintro e later ⟨hgrows, rfl, hroom⟩
    exact ⟨rfl, hroom.mono (by decide)⟩

end ClassFile

namespace Table

variable {table : Table} {declaration : Declaration} {superName : String} {file later : ClassFile}

/-! ## Names -/

/-- The name of a declaration as class files spell it, if the declaration exists. -/
def nameOf? (table : Table) (id : DeclarationId) : Option String :=
  (table.get? id).map fun declaration => declaration.name.internalName

/-- The name of the superclass, which is the root class where none is given. -/
def superNameOf (table : Table) (declaration : Declaration) : Except EmitError String :=
  match declaration.superclass with
  | some id => table.internalName id
  | none => .ok ClassFile.rootClass

/-- The texts that a skeleton can have in its pool. -/
def classTexts (table : Table) (declaration : Declaration) : List String :=
  declaration.name.internalName :: declaration.supertypes.filterMap table.nameOf?
    ++ [ClassFile.rootClass, constructorName, constructorDescriptor, codeAttribute]

theorem mem_classTexts_of_supertype {id : DeclarationId} {name : String}
    (hsuper : id ∈ declaration.supertypes) (hname : table.nameOf? id = some name) :
    name ∈ table.classTexts declaration := by
  have hmem : name ∈ declaration.supertypes.filterMap table.nameOf? :=
    List.mem_filterMap.2 ⟨id, hsuper, hname⟩
  simp [classTexts, hmem]

/-- Why a declaration has no class file: a supertype does not exist, or the interfaces fill the pool
so that `most` other entries do not fit. -/
inductive Refused (table : Table) (declaration : Declaration) (most : Nat) : EmitError → Prop where
  | dangling (id : DeclarationId) (hsuper : id ∈ declaration.supertypes)
      (hget : table.get? id = none) : Refused table declaration most (.unknownDeclaration id)
  | full (h : ConstantPool.capacity < most + 2 * declaration.interfaces.length) :
      Refused table declaration most (.classFile .poolFull)

theorem Refused.mono {most further : Nat} {e : EmitError} (h : table.Refused declaration most e)
    (hmost : most ≤ further) : table.Refused declaration further e := by
  cases h with
  | dangling id hsuper hget =>
      exact .dangling id hsuper hget
  | full hfull =>
      exact .full (Nat.lt_of_lt_of_le hfull (Nat.add_le_add_right hmost _))

theorem yields_internalName (id : DeclarationId) :
    Yields (table.internalName id) (fun name => table.nameOf? id = some name)
      (fun e => e = .unknownDeclaration id ∧ table.get? id = none) := by
  unfold internalName nameOf?
  cases hget : table.get? id with
  | none =>
      exact ⟨rfl, rfl⟩
  | some found =>
      exact rfl

/-! ## The steps of a skeleton -/

/-- A class file to which the first `count` interfaces of the declaration were added. -/
structure Begun (table : Table) (declaration : Declaration) (superName : String) (count : Nat)
    (file : ClassFile) : Prop where
  wellFormed : file.WellFormed
  name : file.pool.classNameAt? file.thisClass = some declaration.name.internalName
  superName : file.pool.classNameAt? file.superClass = some superName
  size_le : file.pool.size ≤ 4 + 2 * count
  interfaces : file.interfaces.Nodup
  methods : file.methods = []
  texts : ∀ text, .utf8 text ∈ file.pool → text ∈ table.classTexts declaration

theorem begun_of_isBare (hsuper : superName ∈ table.classTexts declaration) {access : AccessFlags}
    (h : file.IsBare declaration.name.internalName superName access) :
    table.Begun declaration superName 0 file where
  wellFormed := h.wellFormed
  name := h.thisClass
  superName := h.superClass
  size_le := h.pool.size_le
  interfaces := by
    rw [h.interfaces]
    exact List.nodup_nil
  methods := h.methods
  texts := by
    intro text hmem
    rcases h.pool.mem_texts text hmem with hempty | htext
    · exact absurd hempty (Array.not_mem_empty _)
    · rcases List.mem_cons.1 htext with rfl | htext
      · simp [classTexts]
      · rw [List.mem_singleton.1 htext]
        exact hsuper

theorem Begun.grows {count : Nat} {name : String}
    (h : table.Begun declaration superName count file) (hname : name ∈ table.classTexts declaration)
    (hgrows : ClassFile.Grows file later 2 [name]) :
    table.Begun declaration superName (count + 1) later where
  wellFormed := h.wellFormed.grows hgrows
  name := hgrows.classNameAt?_thisClass h.name
  superName := hgrows.classNameAt?_superClass h.superName
  size_le := by
    have hbefore := h.size_le
    have hlater := hgrows.pool.size_le
    omega
  interfaces := by
    rw [hgrows.interfaces]
    exact h.interfaces
  methods := by
    rw [hgrows.methods]
    exact h.methods
  texts := by
    intro text hmem
    rcases hgrows.pool.mem_texts text hmem with hbefore | htext
    · exact h.texts text hbefore
    · rw [List.mem_singleton.1 htext]
      exact hname

theorem Begun.addInterface {count : Nat} {name : String}
    (h : table.Begun declaration superName count file) (hname : name ∈ table.classTexts declaration) :
    ClassFile.Ends (ClassFile.addInterface name) file
      (fun _ => table.Begun declaration superName (count + 1))
      (fun e _ => e = .poolFull ∧ file.LacksRoom 2) := by
  refine (ClassFile.ends_addInterface name file).mono ?_ ?_
  · rintro ⟨⟩ later ⟨grown, index, hgrows, hindex, rfl⟩
    have hgrown := h.grows hname hgrows
    -- An interface that is named twice is listed once, which keeps the list without repetitions.
    by_cases hlisted : index ∈ grown.interfaces
    · rw [if_pos hlisted]
      exact hgrown
    · rw [if_neg hlisted]
      refine ⟨hgrown.wellFormed.addIndex ?_, hgrown.name, hgrown.superName, hgrown.size_le, ?_,
        hgrown.methods, hgrown.texts⟩
      · rw [hindex]
        rfl
      · have happend : (grown.interfaces ++ [index]).Nodup :=
          List.nodup_append.2 ⟨hgrown.interfaces, List.pairwise_singleton _ index, by
            intro other hother last hlast hequal
            rw [hequal, List.mem_singleton.1 hlast] at hother
            exact hlisted hother⟩
        exact happend
  · rintro e later ⟨hgrows, rfl, hroom⟩
    exact ⟨rfl, hroom⟩

/-! ## Skeletons -/

/-- What a skeleton is like.  Its pool has room for what an accessor needs, unless the declaration
has a great many interfaces, and its methods are not accessors. -/
structure IsSkeleton (table : Table) (declaration : Declaration) (file : ClassFile) : Prop where
  wellFormed : file.WellFormed
  name : file.pool.classNameAt? file.thisClass = some declaration.name.internalName
  superName : ∃ name, table.superNameOf declaration = .ok name ∧
    file.pool.classNameAt? file.superClass = some name
  size_le : file.pool.size + file.pool.missing codeAttribute ≤ 9 + 2 * declaration.interfaces.length
  interfaces : file.interfaces.Nodup
  methods : ∀ method ∈ file.methods, method.descriptor = constructorDescriptor
  methods_le : file.methods.length ≤ 1
  texts : ∀ text, .utf8 text ∈ file.pool → text ∈ table.classTexts declaration

/-- Nothing is missing on an interface. -/
theorem Begun.isSkeleton
    (h : table.Begun declaration superName declaration.interfaces.length file)
    (hsuper : table.superNameOf declaration = .ok superName) :
    table.IsSkeleton declaration file where
  wellFormed := h.wellFormed
  name := h.name
  superName := ⟨superName, hsuper, h.superName⟩
  size_le := by
    have hsize := h.size_le
    have hmissing := file.pool.missing_le_one codeAttribute
    omega
  interfaces := h.interfaces
  methods := by
    rw [h.methods]
    intro method hmethod
    cases hmethod
  methods_le := by
    rw [h.methods]
    exact Nat.zero_le 1
  texts := h.texts

theorem Begun.isSkeleton_of_constructorAdded
    (h : table.Begun declaration superName declaration.interfaces.length file)
    (hsuper : table.superNameOf declaration = .ok superName)
    (hadded : file.ConstructorAdded superName later) : table.IsSkeleton declaration later := by
  rcases hadded with ⟨grown, method, hname, hdescriptor, hgrows, hresolves, hbody⟩
  have hgrown := h.wellFormed.grows hgrows
  have hmethods : grown.methods = [] := hgrows.methods.trans h.methods
  -- There was no method before, so that the list of one method is the old list with one more.
  have happend : { grown with methods := grown.methods ++ [method] }
      = { grown with methods := [method] } := by
    rw [hmethods]
    rfl
  refine ⟨?_, hgrows.classNameAt?_thisClass h.name,
    ⟨superName, hsuper, hgrows.classNameAt?_superClass h.superName⟩, ?_, ?_, ?_, Nat.le_refl 1, ?_⟩
  · rw [← happend]
    exact hgrown.appendMethod hresolves
  · -- The body of the constructor brings the name of the attribute along.
    rcases Option.isSome_iff_exists.1 hbody with ⟨body, hbody⟩
    rcases Option.isSome_iff_exists.1 (hresolves.body body hbody).2 with ⟨index, hindex⟩
    have hmissing : grown.pool.missing codeAttribute = 0 :=
      ConstantPool.missing_eq_zero (hgrown.codeName index hindex)
    have hbefore := h.size_le
    have hlater := hgrows.pool.size_le
    show grown.pool.size + grown.pool.missing codeAttribute ≤ _
    omega
  · show grown.interfaces.Nodup
    rw [hgrows.interfaces]
    exact h.interfaces
  · intro other hother
    rw [List.mem_singleton.1 hother]
    exact hdescriptor
  · intro text hmem
    rcases hgrows.pool.mem_texts text hmem with hbefore | htext
    · exact h.texts text hbefore
    · unfold classTexts
      refine List.mem_append_right _ (List.mem_cons_of_mem _ ?_)
      exact htext

theorem yields_interfaces (hfile : table.Begun declaration superName 0 file) :
    Yields (declaration.interfaces.foldlM
        (fun file id => do
          let name ← table.internalName id
          let (_, file) ← file.perform (ClassFile.addInterface name)
          return file) file)
      (table.Begun declaration superName declaration.interfaces.length)
      (table.Refused declaration 9) := by
  rw [← Nat.zero_add declaration.interfaces.length]
  refine Yields.foldlM hfile ?_
  intro done state id hid hdone hstate
  -- At most two entries were made for each interface so far.
  have hsuper : id ∈ declaration.supertypes := List.mem_append_right _ hid
  refine Yields.bind ((yields_internalName id).mono ?_ ?_)
  · intro name hname
    have hadd := hstate.addInterface (mem_classTexts_of_supertype hsuper hname)
    refine Yields.bind ((ClassFile.yields_perform hadd).mono ?_ ?_)
    · rintro ⟨⟨⟩, later⟩ hlater
      exact hlater
    · rintro e ⟨cause, later, rfl, rfl, hroom⟩
      have hsize := hstate.size_le
      refine .full ?_
      unfold ClassFile.LacksRoom at hroom
      omega
  · rintro e ⟨rfl, hget⟩
    exact .dangling id hsuper hget

/-- The skeleton once the name of the superclass is known. -/
def skeletonOn (table : Table) (declaration : Declaration) (superName : String) :
    Except EmitError ClassFile := do
  let file ← (ClassFile.create declaration.name.internalName superName declaration.access).mapError
    .classFile
  let file ← declaration.interfaces.foldlM
    (fun file id => do
      let name ← table.internalName id
      let (_, file) ← file.perform (ClassFile.addInterface name)
      return file)
    file
  match declaration.shape with
  | .interface => return file
  | _ => do
      let (_, file) ← file.perform (ClassFile.addConstructor superName)
      return file

theorem skeleton_eq (table : Table) (declaration : Declaration) :
    table.skeleton declaration = table.superNameOf declaration >>= table.skeletonOn declaration := by
  unfold skeleton superNameOf
  cases declaration.superclass with
  | none =>
      rfl
  | some id =>
      rfl

theorem yields_superNameOf (table : Table) (declaration : Declaration) :
    Yields (table.superNameOf declaration) (fun name => name ∈ table.classTexts declaration)
      (table.Refused declaration 9) := by
  unfold superNameOf
  cases hsuper : declaration.superclass with
  | none =>
      show ClassFile.rootClass ∈ table.classTexts declaration
      simp [classTexts]
  | some id =>
      have hmem : id ∈ declaration.supertypes := by
        simp [Declaration.supertypes, hsuper]
      refine (yields_internalName id).mono ?_ ?_
      · exact fun name hname => mem_classTexts_of_supertype hmem hname
      · rintro e ⟨rfl, hget⟩
        exact .dangling id hmem hget

/-- There is a skeleton, unless a supertype does not exist or the interfaces fill the pool. -/
theorem yields_skeleton (table : Table) (declaration : Declaration) :
    Yields (table.skeleton declaration) (table.IsSkeleton declaration)
      (table.Refused declaration 9) := by
  -- Four steps: the name of the superclass, the new class file, the interfaces, the constructor.
  rw [skeleton_eq]
  refine Yields.bind ((yields_superNameOf table declaration).with_eq.mono ?_ fun _ => id)
  rintro superName ⟨hsuper, hmem⟩
  have hcreated : Yields
      ((ClassFile.create declaration.name.internalName superName declaration.access).mapError
        EmitError.classFile)
      (fun file => table.Begun declaration superName 0 file) (table.Refused declaration 9) := by
    rcases ClassFile.exists_create declaration.name.internalName superName declaration.access with
      ⟨file, hcreate, hbare⟩
    rw [hcreate]
    exact begun_of_isBare hmem hbare
  refine Yields.bind (hcreated.mono ?_ fun _ => id)
  intro file hfile
  refine Yields.bind ((yields_interfaces hfile).mono ?_ fun _ => id)
  intro listed hlisted
  have hconstructor : Yields (listed.perform (ClassFile.addConstructor superName))
      (fun made => table.IsSkeleton declaration made.2) (table.Refused declaration 9) := by
    have hadd := ClassFile.ends_addConstructor hlisted.methods hlisted.superName
    refine (ClassFile.yields_perform hadd).mono ?_ ?_
    · rintro ⟨⟨⟩, later⟩ hlater
      exact hlisted.isSkeleton_of_constructorAdded hsuper hlater
    · rintro e ⟨cause, later, rfl, rfl, hroom⟩
      have hsize := hlisted.size_le
      refine .full ?_
      unfold ClassFile.LacksRoom at hroom
      omega
  cases declaration.shape with
  | interface =>
      exact hlisted.isSkeleton hsuper
  | plainClass | object | valueAggregate | wrapper =>
      exact Yields.bind hconstructor

end Table

end AccessorSynthesis
