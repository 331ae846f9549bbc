import AccessorSynthesis.ClassFile.Basic

/-!
# The stored form of class files

This file defines

* `ClassFile.toBytes` — the bytes of a class file, unless it is too large for the format;
* `ClassFile.ofBytes` — the class file at the front of a byte string, unless it is malformed.

Fields, attributes of the class and unknown attributes of methods are passed over when a class file
is read, and so is whatever follows it.
-/

namespace AccessorSynthesis
namespace ClassFile

/-- The number that marks class files. -/
def magic : UInt32 := 0xCAFEBABE

/-- The count of a table, unless it is too large for its field. -/
def encodeCount? (count : Nat) : Except Error Bytes :=
  if count < 65536 then .ok (Bytes.ofWord16 (UInt16.ofNat count)) else .error (.tooManyEntries count)

/-- The bytes of a class file, unless it is too large for the format. -/
def toBytes (file : ClassFile) : Except Error Bytes := do
  let pool ← file.pool.encode?
  let interfaceCount ← encodeCount? file.interfaces.length
  let methodCount ← encodeCount? file.methods.length
  let methods ← file.methods.mapM (Method.encode? file.codeName)
  return Bytes.ofWord32 magic ++ Bytes.ofWord16 file.minorVersion
    ++ Bytes.ofWord16 file.majorVersion ++ pool ++ Bytes.ofWord16 file.access.bits
    ++ Bytes.ofWord16 file.thisClass ++ Bytes.ofWord16 file.superClass
    ++ interfaceCount ++ file.interfaces.flatMap Bytes.ofWord16 ++ Bytes.ofWord16 0
    ++ methodCount ++ methods.flatten ++ Bytes.ofWord16 0

/-- Reads an index that has to lead to a class entry. -/
def decodeClass (pool : ConstantPool) : Decoder UInt16 := do
  let index ← Decoder.word16
  match pool.classNameAt? index with
  | some _ => return index
  | none => Decoder.fail (.badReference index)

/-- Passes over a field: its access word, the indices of its name and descriptor, its attributes. -/
def skipField : Decoder Unit := do
  Decoder.skip 6
  skipAttributes

/-- Reads the number that marks class files. -/
def decodeMagic : Decoder Unit := do
  let found ← Decoder.word32
  if found = magic then return () else Decoder.fail (.badMagic found)

/-- Reads a class file. -/
def decode : Decoder ClassFile := do
  decodeMagic
  let minorVersion ← Decoder.word16
  let majorVersion ← Decoder.word16
  let pool ← ConstantPool.decode
  let access ← Decoder.word16
  let thisClass ← decodeClass pool
  let superClass ← decodeClass pool
  let interfaceCount ← Decoder.word16
  let interfaces ← Decoder.times interfaceCount.toNat (decodeClass pool)
  let fieldCount ← Decoder.word16
  Decoder.skipTimes skipField fieldCount.toNat
  let methodCount ← Decoder.word16
  let methods ← Decoder.times methodCount.toNat (Method.decode pool)
  skipAttributes
  return {
    minorVersion
    majorVersion
    pool
    access := ⟨access⟩
    thisClass
    superClass
    interfaces
    methods
    codeName := pool.indexOfUtf8? codeAttribute
  }

/-- The class file at the front of a byte string. -/
def ofBytes (bytes : Bytes) : Except Error ClassFile := (decode bytes).map Prod.fst

end ClassFile
end AccessorSynthesis
