import AccessorSynthesis.ClassFile.Method

/-!
# Class files

A class file has a version, a constant pool, an access word, the pool indices of its own name, of
its superclass and of its interfaces, and methods. Fields and attributes of the class are not
modelled. This file defines

* `ClassFile` and what it says about itself: `name`, `superName?`, `interfaceNames`, `method?`;
* `ClassFile.create` — a class file without interfaces and methods;
* `ClassFile.addInterface`, `ClassFile.loadString`, `ClassFile.addMethod` — what can be added.

A refused addition keeps the pool entries that it made on the way.
-/

namespace AccessorSynthesis

open ClassFile in
/-- A class file. `codeName` is the pool index of the name of the attribute that stores method
bodies, once there is one. -/
structure ClassFile where
  minorVersion : UInt16
  majorVersion : UInt16
  pool : ConstantPool
  access : AccessFlags
  thisClass : UInt16
  superClass : UInt16
  interfaces : List UInt16
  methods : List Method
  codeName : Option UInt16

namespace ClassFile

/-- The root of every class hierarchy. -/
def rootClass : String := "java/lang/Object"

/-! ## What a class file says about itself -/

/-- The name of the class, empty if its index leads nowhere. -/
def name (file : ClassFile) : String := (file.pool.classNameAt? file.thisClass).getD ""

/-- The name of the superclass. -/
def superName? (file : ClassFile) : Option String := file.pool.classNameAt? file.superClass

/-- The names of the interfaces, in order. -/
def interfaceNames (file : ClassFile) : List String :=
  file.interfaces.filterMap file.pool.classNameAt?

/-- The first method of that name and descriptor. -/
def method? (file : ClassFile) (name descriptor : String) : Option Method :=
  file.methods.find? fun method => method.name = name ∧ method.descriptor = descriptor

/-! ## Building class files -/

/-- A class file with neither interfaces nor methods, of the oldest version for which code without
jumps needs no further tables. -/
def create (name superName : String) (access : AccessFlags) : Except Error ClassFile :=
  let names : Update ConstantPool (UInt16 × UInt16) := do
    let thisClass ← ConstantPool.addClass name
    let superClass ← ConstantPool.addClass superName
    return (thisClass, superClass)
  match names.run.run .empty with
  | (.error error, _) => .error error
  | (.ok (thisClass, superClass), pool) =>
      .ok {
        minorVersion := 0
        majorVersion := 52
        pool
        access
        thisClass
        superClass
        interfaces := []
        methods := []
        codeName := none
      }

/-- Makes a change of the pool a change of the class file. -/
def onPool {α : Type} (change : Update ConstantPool α) : Update ClassFile α := fun file =>
  let (result, pool) := change file.pool
  (result, { file with pool })

/-- Adds an interface, unless the class file lists it already. -/
def addInterface (name : String) : Update ClassFile Unit := do
  let index ← onPool (ConstantPool.addClass name)
  modify fun file =>
    if index ∈ file.interfaces then file
    else { file with interfaces := file.interfaces ++ [index] }

/-- The instruction that loads a text. -/
def loadString (text : String) : Update ClassFile Instruction := do
  let index ← onPool (ConstantPool.addString text)
  return Instruction.loading index

/-- Makes sure that the pool has the name of the attribute that stores bodies, if there is a body to
store. -/
def prepareBody : Option MethodBody → Update ClassFile Unit
  | none => pure ()
  | some body => do
      ExceptT.mk (pure (MethodBody.checkSize body.size))
      let index ← onPool (ConstantPool.addUtf8 codeAttribute)
      modify fun file => { file with codeName := some index }

/-- Adds a method behind the others. Abstract and native methods have no body. -/
def addMethod (access : AccessFlags) (name descriptor : String) (body : Option MethodBody) :
    Update ClassFile Unit := do
  if ((← get).method? name descriptor).isSome then
    throw (.duplicateMethod name descriptor)
  prepareBody body
  let nameIndex ← onPool (ConstantPool.addUtf8 name)
  let descriptorIndex ← onPool (ConstantPool.addUtf8 descriptor)
  let method : Method := { access, name, descriptor, nameIndex, descriptorIndex, body }
  modify fun file => { file with methods := file.methods ++ [method] }

end ClassFile
end AccessorSynthesis
