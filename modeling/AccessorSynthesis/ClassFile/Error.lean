import AccessorSynthesis.Text.Hexadecimal

/-!
# Why a class file is refused

The causes for which a class file cannot be read, extended or written, and their texts.
-/

namespace AccessorSynthesis
namespace ClassFile

/-- Why a class file cannot be read, extended or written. -/
inductive Error where
  /-- The input ends inside the class file. -/
  | truncated
  /-- The input starts with another number than the one that marks class files. -/
  | badMagic (found : UInt32)
  /-- A pool entry has a tag of a kind that is not modelled. -/
  | unsupportedConstant (tag : UInt8)
  /-- Two pool entries are equal. -/
  | duplicateConstant
  /-- An index does not lead to a pool entry of the kind needed there. -/
  | badReference (index : UInt16)
  /-- The bytes of a text entry are no modified UTF-8. -/
  | invalidText
  /-- A text needs more bytes than its length field can say. -/
  | textTooLong (bytes : Nat)
  /-- The pool has no free index left. -/
  | poolFull
  /-- A table has more entries than its count field can say. -/
  | tooManyEntries (count : Nat)
  /-- A method body holds an instruction that is not modelled. -/
  | unsupportedOpcode (opcode : UInt8)
  /-- A method body is empty, or longer than the format allows. -/
  | badCodeLength (bytes : Nat)
  /-- The class already has a method of that name and descriptor. -/
  | duplicateMethod (name descriptor : String)
deriving DecidableEq

/-- The text shown for an error. -/
def Error.message : Error → String
  | .truncated => "unexpected end of class file"
  | .badMagic found => s!"not a class file, found magic 0x{hexadecimal 8 found.toNat}"
  | .unsupportedConstant tag => s!"unsupported constant pool tag {tag.toNat}"
  | .duplicateConstant => "constant pool contains duplicate entries"
  | .badReference index => s!"invalid constant pool reference #{index.toNat}"
  | .invalidText => "invalid modified UTF-8 in the constant pool"
  | .textTooLong bytes => s!"string of {bytes} bytes does not fit in the constant pool"
  | .poolFull => "too many constant pool entries"
  | .tooManyEntries count => s!"{count} entries do not fit in a class file table"
  | .unsupportedOpcode opcode => s!"unsupported opcode 0x{hexadecimal 2 opcode.toNat}"
  | .badCodeLength bytes => s!"invalid code length: {bytes} bytes"
  | .duplicateMethod name descriptor => s!"method {name}{descriptor} is already defined"

end ClassFile
end AccessorSynthesis
