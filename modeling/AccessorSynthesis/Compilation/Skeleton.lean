import AccessorSynthesis.Compilation.Emission

/-!
# Class skeletons

The class file of a declaration before any extension has seen it: the header, the interfaces and,
unless the declaration is an interface, a constructor that calls the one of the superclass.
-/

namespace AccessorSynthesis

open ClassFile (AccessFlags ConstantPool Update)

namespace ClassFile

/-- Tries a change of a class file. -/
def perform {α : Type} (file : ClassFile) (change : Update ClassFile α) :
    Except EmitError (α × ClassFile) :=
  match change.run.run file with
  | (.ok a, file) => .ok (a, file)
  | (.error error, _) => .error (.classFile error)

/-- The name of constructors. -/
def constructorName : String := "<init>"

/-- The descriptor of a constructor without arguments. -/
def constructorDescriptor : String := "()V"

/-- Adds a constructor that calls the one of the superclass. -/
def addConstructor (superName : String) : Update ClassFile Unit := do
  let index ← onPool (ConstantPool.addMethodRef
    ⟨superName, constructorName, constructorDescriptor⟩)
  addMethod (.ofList [.pub]) constructorName constructorDescriptor
    (some ⟨1, 1, [.loadThis, .invokeSpecial index, .returnVoid]⟩)

end ClassFile

/-- The access word of the class file of a declaration. -/
def Declaration.access (declaration : Declaration) : AccessFlags :=
  match declaration.shape with
  | .interface => .ofList [.pub, .interface, .abstract]
  | _ =>
      if declaration.isAbstract then .ofList [.pub, .super, .abstract]
      else if declaration.isOpen then .ofList [.pub, .super]
      else .ofList [.pub, .super, .final]

namespace Table

/-- The name of a declaration as class files spell it. -/
def internalName (table : Table) (id : DeclarationId) : Except EmitError String :=
  match table.get? id with
  | some declaration => .ok declaration.name.internalName
  | none => .error (.unknownDeclaration id)

/-- The class file of a declaration before any extension has seen it. -/
def skeleton (table : Table) (declaration : Declaration) : Except EmitError ClassFile := do
  let superName ←
    match declaration.superclass with
    | some id => table.internalName id
    | none => .ok ClassFile.rootClass
  let file ← (ClassFile.create declaration.name.internalName superName declaration.access).mapError
    .classFile
  let file ← declaration.interfaces.foldlM
    (fun file id => do
      let name ← table.internalName id
      let (_, file) ← file.perform (ClassFile.addInterface name)
      return file)
    file
  match declaration.shape with
  | .interface => return file
  | _ => do
      let (_, file) ← file.perform (ClassFile.addConstructor superName)
      return file

end Table

end AccessorSynthesis
