import AccessorSynthesis.Proofs.ClassFile.Representation

/-!
# Preservation — what a refused addition leaves as it was

Additions make pool entries before they can fail, and keep them when they do.  This file defines

* `ClassFile.Retains file later` — the header, the names and the interfaces are those of `file`, and
  whatever an index of `file` stands for it stands for in `later`;
* `ClassFile.Unharmed file later` — the methods are those of `file` as well, and the pool has at most
  four further entries;
* `ClassFile.Gains file method later` — the method is the only one that is new;
* `ClassFile.Withstands file` — calls that fail leave the class file unharmed, and a method that is
  added is all that is gained.

A pool without room for five entries lacks one of them at least (`LacksRoom.size_le`); this is where
the number four comes from.  Every class file that calls can lead to withstands whatever is called
next (`IsReachable.withstands`).
-/

namespace AccessorSynthesis
namespace ClassFile

variable {file later grown : ClassFile}

/-! ## What is retained -/

/-- Header, names and interfaces are those of the class file; each index that leads to an entry leads
to the same one later, and so does the note of the attribute for bodies. -/
structure Retains (file later : ClassFile) : Prop where
  rest : later = { file with
    pool := later.pool, methods := later.methods, codeName := later.codeName }
  name : later.name = file.name
  superName : later.superName? = file.superName?
  interfaceNames : later.interfaceNames = file.interfaceNames
  pool : file.pool.Extends later.pool
  entries : ∀ index constant, file.pool.get? index = some constant →
    later.pool.get? index = some constant
  codeName : ∀ index, file.codeName = some index → later.codeName = some index

/-- Nothing that was there is lost or changed, and at most four pool entries are new. -/
structure Unharmed (file later : ClassFile) : Prop extends Retains file later where
  methods : later.methods = file.methods
  size_le : later.pool.size ≤ file.pool.size + 4

/-- The method is added behind the others, and nothing that was there is lost or changed. -/
structure Gains (file : ClassFile) (method : Method) (later : ClassFile) : Prop
    extends Retains file later where
  methods : later.methods = file.methods ++ [method]

/-- Whatever is called: if it fails, the class file is unharmed, and if a method is added, nothing
else is gained.  Only a full pool, or an accessor's literal, leaves new entries behind. -/
structure Withstands (file : ClassFile) : Prop where
  addInterface : ∀ name, Ends (addInterface name) file (fun _ _ => True)
    fun _ later => file.Unharmed later
  loadString : ∀ text, Ends (loadString text) file (fun _ _ => True)
    fun _ later => file.Unharmed later
  addMethod : ∀ access name descriptor body, Ends (addMethod access name descriptor body) file
    (fun _ later => ∃ nameIndex descriptorIndex,
      file.Gains ⟨access, name, descriptor, nameIndex, descriptorIndex, body⟩ later)
    fun e later => file.Unharmed later ∧ (e = .poolFull ∨ later = file)
  emitAccessor : ∀ shape accessor, (file.emitAccessor shape accessor).Ends
    (fun later => ∃ method, file.Gains method later ∧ method.IsAccessor later shape accessor)
    fun e later => file.Unharmed later ∧ ∀ name, e = .unexpectedShape name → later = file

/-! ## From growth -/

theorem Grows.interfaceNames {most : Nat} {texts : List String} (h : Grows file later most texts)
    (hwell : file.WellFormed) : later.interfaceNames = file.interfaceNames := by
  unfold ClassFile.interfaceNames
  rw [h.interfaces]
  refine List.filterMap_congr fun index hindex => ?_
  rcases Option.isSome_iff_exists.1 (hwell.interfaces index hindex) with ⟨name, hname⟩
  exact (h.pool.stable.classNameAt? hname).trans hname.symm

/-- An index that was noted is noted still, since no two entries of a pool are the same text. -/
theorem Grows.codeName_eq {most : Nat} {texts : List String} (h : Grows file later most texts)
    (hwell : file.WellFormed) {index : UInt16} (hindex : file.codeName = some index) :
    later.codeName = some index := by
  rcases h.codeName with hsame | ⟨noted, hnoted, hutf8⟩
  · exact hsame.trans hindex
  · have hold : later.pool.utf8At? index = some codeAttribute :=
      h.pool.stable.utf8At? (hwell.codeName index hindex)
    calc
      later.codeName = some noted := hnoted
      _ = later.pool.indexOfUtf8? codeAttribute :=
          (ConstantPool.indexOfUtf8?_eq_some_iff.2 (ConstantPool.utf8At?_eq_some_iff.1 hutf8)).symm
      _ = some index :=
          ConstantPool.indexOfUtf8?_eq_some_iff.2 (ConstantPool.utf8At?_eq_some_iff.1 hold)

/-- A grown class file retains what there was, whatever methods it has. -/
theorem Grows.retains {most : Nat} {texts : List String} (h : Grows file grown most texts)
    (hwell : file.WellFormed) (methods : List Method) : Retains file { grown with methods } := by
  rcases Option.isSome_iff_exists.1 hwell.thisClass with ⟨name, hname⟩
  rcases Option.isSome_iff_exists.1 hwell.superClass with ⟨superName, hsuper⟩
  refine ⟨?_, ?_, ?_, h.interfaceNames hwell, h.pool.stable, ?_, ?_⟩
  · rw [h.rest]
  · exact (name_eq (h.classNameAt?_thisClass hname)).trans (name_eq hname).symm
  · exact (h.classNameAt?_superClass hsuper).trans hsuper.symm
  · exact fun index constant => h.pool.stable.get?
  · exact fun index => h.codeName_eq hwell

theorem Grows.unharmed {most : Nat} {texts : List String} (h : Grows file later most texts)
    (hwell : file.WellFormed) (hsize : later.pool.size ≤ file.pool.size + 4) :
    file.Unharmed later where
  toRetains := h.retains hwell later.methods
  methods := h.methods
  size_le := hsize

theorem Grows.gains {most : Nat} {texts : List String} (h : Grows file grown most texts)
    (hwell : file.WellFormed) (method : Method) :
    file.Gains method { grown with methods := grown.methods ++ [method] } where
  toRetains := h.retains hwell (grown.methods ++ [method])
  methods := congrArg (· ++ [method]) h.methods

/-- Where five entries do not fit, at most four are added. -/
theorem LacksRoom.size_le {most : Nat} (h : file.LacksRoom most) (hmost : most ≤ 5)
    (later : ClassFile) : later.pool.size ≤ file.pool.size + 4 := by
  have hcapacity : later.pool.size ≤ ConstantPool.capacity := later.pool.size_le
  have hfull : ConstantPool.capacity < file.pool.size + most := h
  omega

/-! ## Calls -/

theorem missingMethod_le (file : ClassFile) (name descriptor : String) (body : Option MethodBody) :
    file.missingMethod name descriptor body ≤ 3 := by
  have hcode : file.missingCode body ≤ 1 := by
    unfold missingCode
    split
    · exact file.pool.missing_le_one codeAttribute
    · exact Nat.zero_le 1
  have hname := file.pool.missing_le_one name
  have hdescriptor := file.pool.missing_le_one descriptor
  unfold missingMethod
  omega

theorem missingAccessor_le (file : ClassFile) (accessor : Accessor) :
    file.missingAccessor accessor ≤ 5 := by
  have hcode := file.pool.missing_le_one codeAttribute
  have hname := file.pool.missing_le_one accessor.name
  have hdescriptor := file.pool.missing_le_one accessorDescriptor
  unfold missingAccessor
  omega

theorem MethodRefused.unharmed {name descriptor : String} {body : Option MethodBody} {e : Error}
    (h : MethodRefused file name descriptor body e later) (hwell : file.WellFormed) :
    file.Unharmed later := by
  cases h with
  | duplicate hmethod | badLength b hbody hsize =>
      exact (Grows.refl file).unharmed hwell (Nat.le_add_right _ 4)
  | full later hgrows hroom =>
      have hmost := file.missingMethod_le name descriptor body
      exact hgrows.unharmed hwell (hroom.size_le (Nat.le_trans hmost (by decide)) later)

theorem AccessorRefused.unharmed {shape : Shape} {accessor : Accessor} {e : EmitError}
    (h : AccessorRefused file shape accessor e later) (hwell : file.WellFormed) :
    file.Unharmed later := by
  cases h with
  | shape hshape =>
      exact (Grows.refl file).unharmed hwell (Nat.le_add_right _ 4)
  | duplicate later hgrows hmethod =>
      -- The literal was loaded before the method was found, and its text and constant may be new.
      exact hgrows.unharmed hwell (Nat.le_trans hgrows.pool.size_le (by omega))
  | full later hgrows hroom =>
      exact hgrows.unharmed hwell (hroom.size_le (file.missingAccessor_le accessor) later)

/-- Whatever is called of a class file that calls have led to: what fails leaves it unharmed, and
what adds a method adds that method only. -/
theorem IsReachable.withstands (reachable : file.IsReachable) : file.Withstands where
  addInterface := by
    intro name
    refine (ends_addInterface name file).mono (fun _ _ _ => trivial) ?_
    rintro e later ⟨hgrows, rfl, hroom⟩
    exact hgrows.unharmed reachable.wellFormed (hroom.size_le (by decide) later)
  loadString := by
    intro text
    refine (ends_loadString text file).mono (fun _ _ _ => trivial) ?_
    rintro e later ⟨hgrows, rfl, hroom⟩
    exact hgrows.unharmed reachable.wellFormed (hroom.size_le (by decide) later)
  addMethod := by
    intro access name descriptor body
    refine (ends_addMethod access name descriptor body file).mono ?_ ?_
    · rintro ⟨⟩ later ⟨grown, nameIndex, descriptorIndex, hnew, hgrows, hresolves⟩
      exact ⟨nameIndex, descriptorIndex, hgrows.gains reachable.wellFormed _⟩
    · intro e later hrefused
      refine ⟨hrefused.unharmed reachable.wellFormed, ?_⟩
      cases hrefused with
      | duplicate hmethod | badLength b hbody hsize =>
          exact Or.inr rfl
      | full later hgrows hroom =>
          exact Or.inl rfl
  emitAccessor := by
    intro shape accessor
    refine (ends_emitAccessor file shape accessor).mono ?_ ?_
    · rintro later ⟨grown, method, hnew, hgrows, hresolves, haccessor⟩
      exact ⟨method, hgrows.gains reachable.wellFormed method,
        haccessor.extends (ConstantPool.Extends.refl grown.pool)⟩
    · intro e later hrefused
      refine ⟨hrefused.unharmed reachable.wellFormed, ?_⟩
      rintro name rfl
      cases hrefused with
      | shape hshape =>
          rfl

theorem withstands_mixedCalls :
    (∃ start, create "a/A" rootClass (.ofList [.pub, .super]) = .ok start ∧
      (start.afterCalls mixedCalls).Withstands) ∧
    ∃ start, ofBytes looseBytes = .ok start ∧ (start.afterCalls mixedCalls).Withstands := by
  refine ⟨?_, ?_⟩
  · rcases exists_create "a/A" rootClass (.ofList [.pub, .super]) with ⟨start, hcreate, _⟩
    exact ⟨start, hcreate, IsReachable.withstands (.of_create hcreate mixedCalls)⟩
  · rcases exists_ofBytes_looseBytes with ⟨start, hstart⟩
    exact ⟨start, hstart, IsReachable.withstands (.of_ofBytes hstart mixedCalls)⟩

end ClassFile
end AccessorSynthesis
