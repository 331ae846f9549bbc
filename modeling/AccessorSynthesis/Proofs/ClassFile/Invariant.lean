import AccessorSynthesis.Proofs.Compilation.Emission

/-!
# Invariant — class files in which every index leads somewhere

* `ClassFile.WellFormed` — all indices of a class file lead to entries of the right kind, and all
  bodies can be stored;
* `ClassFile.PoolCall.FoundAt call pool index` — the index stands for what the call asks for;
* `ClassFile.Call` — one call of an operation that changes a class file, refused or not;
* `ClassFile.afterCalls` — the class file that a sequence of calls leaves;
* `ClassFile.Leaves` — all that one call can do to a class file (`leaves_afterCall`).

A new class file is well formed (`wellFormed_of_create`), and so is what a call leaves of it
(`Leaves.wellFormed`).  What no call destroys holds after any sequence of them
(`afterCalls_of_leaves`).
-/

namespace AccessorSynthesis
namespace ClassFile

variable {file later : ClassFile}

/-- The indices of the class file lead where they should, and its bodies can be stored. -/
structure WellFormed (file : ClassFile) : Prop where
  thisClass : (file.pool.classNameAt? file.thisClass).isSome = true
  superClass : (file.pool.classNameAt? file.superClass).isSome = true
  interfaces : ∀ index ∈ file.interfaces, (file.pool.classNameAt? index).isSome = true
  methods : ∀ method ∈ file.methods, method.Resolves file
  codeName : ∀ index, file.codeName = some index → file.pool.utf8At? index = some codeAttribute

theorem ConstantPool.Extends.isSome_classNameAt? {pool later : ConstantPool} {index : UInt16}
    (h : pool.Extends later) (hsome : (pool.classNameAt? index).isSome = true) :
    (later.classNameAt? index).isSome = true := by
  rcases Option.isSome_iff_exists.1 hsome with ⟨name, hname⟩
  rw [h.classNameAt? hname]
  rfl

namespace WellFormed

theorem grows {most : Nat} {texts : List String} (h : file.WellFormed)
    (hgrows : Grows file later most texts) : later.WellFormed := by
  have hstable := hgrows.pool.stable
  refine ⟨?_, ?_, ?_, ?_, ?_⟩
  · rw [hgrows.thisClass]
    exact hstable.isSome_classNameAt? h.thisClass
  · rw [hgrows.superClass]
    exact hstable.isSome_classNameAt? h.superClass
  · intro index hindex
    rw [hgrows.interfaces] at hindex
    exact hstable.isSome_classNameAt? (h.interfaces index hindex)
  · intro method hmethod
    rw [hgrows.methods] at hmethod
    exact (h.methods method hmethod).grows hgrows
  · intro index hindex
    rcases hgrows.codeName with hsame | ⟨noted, hnoted, hutf8⟩
    · rw [hsame] at hindex
      exact hstable.utf8At? (h.codeName index hindex)
    -- A note that was made with the growth is right by what growth means.
    · rw [hnoted] at hindex
      cases hindex
      exact hutf8

theorem addIndex {index : UInt16} (h : file.WellFormed)
    (hindex : (file.pool.classNameAt? index).isSome = true) :
    WellFormed { file with interfaces := file.interfaces ++ [index] } where
  thisClass := h.thisClass
  superClass := h.superClass
  interfaces := by
    intro other hother
    rcases List.mem_append.1 hother with hold | hnew
    · exact h.interfaces other hold
    · rw [List.mem_singleton.1 hnew]
      exact hindex
  methods := fun method hmethod =>
    have hresolves := h.methods method hmethod
    ⟨hresolves.name, hresolves.descriptor, hresolves.body⟩
  codeName := h.codeName

theorem appendMethod {method : Method} (h : file.WellFormed) (hmethod : method.Resolves file) :
    WellFormed { file with methods := file.methods ++ [method] } where
  thisClass := h.thisClass
  superClass := h.superClass
  interfaces := h.interfaces
  methods := by
    intro other hother
    have hresolves : other.Resolves file := by
      rcases List.mem_append.1 hother with hold | hnew
      · exact h.methods other hold
      · rw [List.mem_singleton.1 hnew]
        exact hmethod
    exact ⟨hresolves.name, hresolves.descriptor, hresolves.body⟩
  codeName := h.codeName

end WellFormed

theorem IsBare.wellFormed {name superName : String} {access : AccessFlags}
    (h : file.IsBare name superName access) : file.WellFormed where
  thisClass := by
    rw [h.thisClass]
    rfl
  superClass := by
    rw [h.superClass]
    rfl
  interfaces := by
    rw [h.interfaces]
    simp
  methods := by
    rw [h.methods]
    simp
  codeName := by
    rw [h.codeName]
    simp

theorem wellFormed_of_create {name superName : String} {access : AccessFlags}
    (h : create name superName access = .ok file) : file.WellFormed :=
  (isBare_of_create h).wellFormed

/-! ## Calls -/

/-- A call of an adding function of the pool. -/
inductive PoolCall where
  | add (constant : Constant)
  | addUtf8 (text : String)
  | addClass (name : String)
  | addString (text : String)
  | addNameAndType (name descriptor : String)
  | addMethodRef (method : ConstantPool.MethodRef)
deriving DecidableEq

/-- The change of the pool that is called for. -/
def PoolCall.update : PoolCall → Update ConstantPool UInt16
  | .add constant => ConstantPool.add constant
  | .addUtf8 text => ConstantPool.addUtf8 text
  | .addClass name => ConstantPool.addClass name
  | .addString text => ConstantPool.addString text
  | .addNameAndType name descriptor => ConstantPool.addNameAndType name descriptor
  | .addMethodRef method => ConstantPool.addMethodRef method

/-- A call of an operation that changes a class file. -/
inductive Call where
  | onPool (call : PoolCall)
  | addInterface (name : String)
  | loadString (text : String)
  | addMethod (access : AccessFlags) (name descriptor : String) (body : Option MethodBody)
  | emitAccessor (shape : Shape) (accessor : Accessor)
deriving DecidableEq

/-- The class file that a call leaves, whether it is refused or not. -/
def afterCall (file : ClassFile) : Call → ClassFile
  | .onPool call => (ClassFile.onPool call.update file).2
  | .addInterface name => (ClassFile.addInterface name file).2
  | .loadString text => (ClassFile.loadString text file).2
  | .addMethod access name descriptor body =>
      (ClassFile.addMethod access name descriptor body file).2
  | .emitAccessor shape accessor => (file.emitAccessor shape accessor).file

/-- The class file that a sequence of calls leaves. -/
def afterCalls (file : ClassFile) (calls : List Call) : ClassFile := calls.foldl afterCall file

/-- The index stands for what the call asks for. -/
def PoolCall.FoundAt (call : PoolCall) (pool : ConstantPool) (index : UInt16) : Prop :=
  match call with
  | .add constant => pool.get? index = some constant
  | .addUtf8 text => pool.utf8At? index = some text
  | .addClass name => pool.classNameAt? index = some name
  | .addString text => pool.stringAt? index = some text
  | .addNameAndType name descriptor =>
      ∃ nameIndex descriptorIndex,
        pool.get? index = some (.nameAndType nameIndex descriptorIndex) ∧
        pool.utf8At? nameIndex = some name ∧ pool.utf8At? descriptorIndex = some descriptor
  | .addMethodRef method => pool.methodRefAt? index = some method

theorem PoolCall.achieves (call : PoolCall) (pool : ConstantPool) :
    ∃ texts, ConstantPool.Achieves call.update pool 6 texts fun index later =>
      call.FoundAt later index := by
  cases call with
  | add constant =>
      exact ⟨_, (ConstantPool.achieves_add constant pool).mono (by omega) fun _ => id⟩
  | addUtf8 text =>
      exact ⟨_, (ConstantPool.achieves_addUtf8 text pool).mono (by omega) fun _ => id⟩
  | addClass name =>
      exact ⟨_, (ConstantPool.achieves_addClass name pool).mono (by omega) fun _ => id⟩
  | addString text =>
      exact ⟨_, (ConstantPool.achieves_addString text pool).mono (by omega) fun _ => id⟩
  | addNameAndType name descriptor =>
      exact ⟨_, (ConstantPool.achieves_addNameAndType name descriptor pool).mono (by omega)
        fun _ => id⟩
  | addMethodRef method =>
      exact ⟨_, (ConstantPool.achieves_addMethodRef method pool).mono (by omega) fun _ => id⟩

/-- What a call can leave, whether it is refused or not: a grown class file, to which one interface or
one method may have been added that was not there before. -/
inductive Leaves (file : ClassFile) : ClassFile → Prop where
  | grown {later : ClassFile} {most : Nat} {texts : List String}
      (hgrows : Grows file later most texts) : Leaves file later
  | interface {grown : ClassFile} {most : Nat} {texts : List String} {index : UInt16}
      (hgrows : Grows file grown most texts)
      (hindex : (grown.pool.classNameAt? index).isSome = true) (hnew : index ∉ grown.interfaces) :
      Leaves file { grown with interfaces := grown.interfaces ++ [index] }
  | method {grown : ClassFile} {most : Nat} {texts : List String} {method : Method}
      (hgrows : Grows file grown most texts) (hresolves : method.Resolves grown)
      (hnew : file.method? method.name method.descriptor = none) :
      Leaves file { grown with methods := grown.methods ++ [method] }

theorem leaves_afterCall (file : ClassFile) (call : Call) : Leaves file (file.afterCall call) := by
  cases call with
  | onPool call =>
      rcases call.achieves file.pool with ⟨texts, hachieves⟩
      exact Ends.state ((ends_onPool hachieves).mono (fun _ _ h => .grown h.1) fun _ _ h => .grown h.1)
  | addInterface name =>
      refine Ends.state ((ends_addInterface name file).mono ?_ fun _ _ h => .grown h.1)
      rintro ⟨⟩ later ⟨grown, index, hgrows, hname, rfl⟩
      split
      · exact .grown hgrows
      · rename_i hnew
        refine .interface hgrows ?_ hnew
        rw [hname]
        rfl
  | loadString text =>
      exact Ends.state ((ends_loadString text file).mono (fun _ _ h => .grown h.1)
        fun _ _ h => .grown h.1)
  | addMethod access name descriptor body =>
      refine Ends.state ((ends_addMethod access name descriptor body file).mono ?_ ?_)
      · rintro ⟨⟩ later ⟨grown, nameIndex, descriptorIndex, hnew, hgrows, hresolves⟩
        exact .method hgrows hresolves hnew
      · intro e later hrefused
        cases hrefused with
        | duplicate hmethod =>
            exact .grown (Grows.refl file)
        | badLength b hbody hsize =>
            exact .grown (Grows.refl file)
        | full later hgrows hroom =>
            exact .grown hgrows
  | emitAccessor shape accessor =>
      refine Emission.Ends.state ((ends_emitAccessor file shape accessor).mono ?_ ?_)
      · rintro later ⟨grown, method, hnew, hgrows, hresolves, haccessor⟩
        rw [← haccessor.name, ← haccessor.descriptor] at hnew
        exact .method hgrows hresolves hnew
      · intro e later hrefused
        cases hrefused with
        | shape hshape =>
            exact .grown (Grows.refl file)
        | duplicate later hgrows hmethod =>
            exact .grown hgrows
        | full later hgrows hroom =>
            exact .grown hgrows

/-- What no call destroys holds after every sequence of calls. -/
theorem afterCalls_of_leaves {property : ClassFile → Prop}
    (hkept : ∀ {file later}, Leaves file later → property file → property later)
    (h : property file) (calls : List Call) : property (file.afterCalls calls) := by
  induction calls generalizing file with
  | nil =>
      exact h
  | cons call calls ih =>
      exact ih (hkept (leaves_afterCall file call) h)

namespace Leaves

variable {name : String}

theorem wellFormed (h : Leaves file later) (hfile : file.WellFormed) : later.WellFormed := by
  cases h with
  | grown hgrows =>
      exact hfile.grows hgrows
  | interface hgrows hindex hnew =>
      exact (hfile.grows hgrows).addIndex hindex
  | method hgrows hresolves hnew =>
      exact (hfile.grows hgrows).appendMethod hresolves

theorem classNameAt?_thisClass (h : Leaves file later)
    (hname : file.pool.classNameAt? file.thisClass = some name) :
    later.pool.classNameAt? later.thisClass = some name := by
  cases h with
  | grown hgrows | interface hgrows hindex hnew | method hgrows hresolves hnew =>
      exact hgrows.classNameAt?_thisClass hname

theorem classNameAt?_superClass (h : Leaves file later)
    (hname : file.pool.classNameAt? file.superClass = some name) :
    later.pool.classNameAt? later.superClass = some name := by
  cases h with
  | grown hgrows | interface hgrows hindex hnew | method hgrows hresolves hnew =>
      exact hgrows.classNameAt?_superClass hname

end Leaves

theorem WellFormed.afterCalls (h : file.WellFormed) (calls : List Call) :
    (file.afterCalls calls).WellFormed :=
  afterCalls_of_leaves Leaves.wellFormed h calls

end ClassFile
end AccessorSynthesis
