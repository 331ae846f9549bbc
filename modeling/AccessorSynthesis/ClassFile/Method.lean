import AccessorSynthesis.ClassFile.AccessFlags
import AccessorSynthesis.ClassFile.ConstantPool
import AccessorSynthesis.ClassFile.Instruction

/-!
# Methods

A method of a class file has an access word, a name, a descriptor and, unless it is abstract or
native, a body. This file defines methods and bodies and their stored form; the format has room for
exception tables and for further attributes, which are passed over when a method is read.

A body of no bytes, or of more than 65535, is neither written nor read.
-/

namespace AccessorSynthesis
namespace ClassFile

/-! ## Bodies -/

/-- What a method does. -/
structure MethodBody where
  maxStack : UInt16
  maxLocals : UInt16
  instructions : List Instruction
deriving DecidableEq

namespace MethodBody

/-- The number of bytes of the instructions. -/
def size (body : MethodBody) : Nat :=
  body.instructions.foldr (fun instruction rest => instruction.size + rest) 0

/-- Refuses a number of instruction bytes that no body may have. -/
def checkSize (size : Nat) : Except Error Unit :=
  if size = 0 ∨ 65535 < size then .error (.badCodeLength size) else .ok ()

/-- The contents of the attribute that stores a body. Its exception table is empty, and it has no
attributes of its own. -/
def encode (body : MethodBody) : Bytes :=
  Bytes.ofWord16 body.maxStack ++ Bytes.ofWord16 body.maxLocals
    ++ Bytes.ofWord32 (UInt32.ofNat body.size) ++ body.instructions.flatMap Instruction.encode
    ++ Bytes.ofWord16 0 ++ Bytes.ofWord16 0

end MethodBody

/-- The name of the attribute that stores a body. -/
def codeAttribute : String := "Code"

/-- Passes over an attribute by its stored length. -/
def skipAttribute : Decoder Unit := do
  let _name ← Decoder.word16
  let length ← Decoder.word32
  Decoder.skip length.toNat

/-- Passes over a table of attributes. -/
def skipAttributes : Decoder Unit := do
  let count ← Decoder.word16
  Decoder.skipTimes skipAttribute count.toNat

/-- Reads the contents of the attribute that stores a body. -/
def MethodBody.decode : Decoder MethodBody := do
  let maxStack ← Decoder.word16
  let maxLocals ← Decoder.word16
  let length ← Decoder.word32
  match checkSize length.toNat with
  | .error error => Decoder.fail error
  | .ok () => do
      let code ← Decoder.take length.toNat
      match Instruction.scan code with
      | (_, some error) => Decoder.fail error
      | (instructions, none) => do
          let handlers ← Decoder.word16
          Decoder.skip (8 * handlers.toNat)
          skipAttributes
          return { maxStack, maxLocals, instructions }

/-! ## Methods -/

/-- A method, with the pool indices of its name and descriptor. -/
structure Method where
  access : AccessFlags
  name : String
  descriptor : String
  nameIndex : UInt16
  descriptorIndex : UInt16
  body : Option MethodBody
deriving DecidableEq

namespace Method

/-- The stored form of a method. `codeName` is the pool index of the name of the attribute that
stores bodies; only a method without a body can do without it. -/
def encode? (codeName : Option UInt16) (method : Method) : Except Error Bytes := do
  let header := Bytes.ofWord16 method.access.bits ++ Bytes.ofWord16 method.nameIndex
    ++ Bytes.ofWord16 method.descriptorIndex
  match method.body with
  | none => return header ++ Bytes.ofWord16 0
  | some body =>
      match codeName with
      | none => throw (.badReference 0)
      | some codeName =>
          MethodBody.checkSize body.size
          return header ++ Bytes.ofWord16 1 ++ Bytes.ofWord16 codeName
            ++ Bytes.ofWord32 (UInt32.ofNat (body.size + 12)) ++ body.encode

/-- Reads an index that has to lead to a text entry, and returns it with the text. -/
def decodeUtf8 (pool : ConstantPool) : Decoder (UInt16 × String) := do
  let index ← Decoder.word16
  match pool.utf8At? index with
  | some text => return (index, text)
  | none => Decoder.fail (.badReference index)

/-- Reads an attribute of a method and returns the body it stores, if it is of that kind. The
length of an attribute that stores a body is read and not used. -/
def decodeAttribute (pool : ConstantPool) : Decoder (Option MethodBody) := do
  let (_, name) ← decodeUtf8 pool
  let length ← Decoder.word32
  if name = codeAttribute then
    return some (← MethodBody.decode)
  else
    Decoder.skip length.toNat
    return none

/-- Reads a method. Of several bodies the last one counts. -/
def decode (pool : ConstantPool) : Decoder Method := do
  let access ← Decoder.word16
  let nameIndex ← Decoder.word16
  let descriptorIndex ← Decoder.word16
  match pool.utf8At? nameIndex with
  | none => Decoder.fail (.badReference nameIndex)
  | some name =>
      match pool.utf8At? descriptorIndex with
      | none => Decoder.fail (.badReference descriptorIndex)
      | some descriptor => do
          let count ← Decoder.word16
          let attributes ← Decoder.times count.toNat (decodeAttribute pool)
          return {
            access := ⟨access⟩
            name
            descriptor
            nameIndex
            descriptorIndex
            body := (attributes.filterMap id).getLast?
          }

end Method

end ClassFile
end AccessorSynthesis
