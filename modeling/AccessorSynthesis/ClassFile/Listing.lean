import AccessorSynthesis.ClassFile.Basic

/-!
# Listings

A readable form of class files: a line for the class and one for each method, with its body below
it. Instructions that name a pool entry show what the entry says.
-/

namespace AccessorSynthesis
namespace ClassFile
namespace Listing

/-- The access flags that a listing shows, in this order. -/
def shownFlags : List AccessFlag :=
  [.pub, .priv, .prot, .static, .final, .abstract, .synthetic]

/-- The names of the shown flags that are set. -/
def modifiers (access : AccessFlags) : List String :=
  (shownFlags.filter access.has).map AccessFlag.name

/-- The line of the class. Interfaces are always abstract, so theirs does not say it. -/
def header (file : ClassFile) : String :=
  let isInterface := file.access.has .interface
  let kind := if isInterface then "interface" else "class"
  let shown := (modifiers file.access).filter fun modifier => !(isInterface && modifier == "abstract")
  let parent :=
    match file.superName? with
    | some name => " extends " ++ name
    | none => ""
  let interfaces :=
    match file.interfaceNames with
    | [] => ""
    | names => " implements " ++ ", ".intercalate names
  " ".intercalate (shown ++ [kind, file.name]) ++ parent ++ interfaces

/-- What is said behind an instruction about the pool entry that it names. -/
def remark (pool : ConstantPool) : Instruction → String
  | .loadConstant index =>
      match pool.stringAt? index.toUInt16 with
      | some text => " // String " ++ text
      | none => ""
  | .loadConstantWide index =>
      match pool.stringAt? index with
      | some text => " // String " ++ text
      | none => ""
  | .invokeSpecial index =>
      match pool.methodRefAt? index with
      | some method => " // Method " ++ method.owner ++ "." ++ method.name ++ ":" ++ method.descriptor
      | none => ""
  | .loadThis | .returnReference | .returnVoid => ""

/-- The lines of a body. -/
def bodyLines (pool : ConstantPool) (body : MethodBody) : List String :=
  s!"    stack={body.maxStack.toNat}, locals={body.maxLocals.toNat}" ::
    body.instructions.map fun instruction =>
      "    " ++ instruction.mnemonic ++ remark pool instruction

/-- The lines of a method. -/
def methodLines (pool : ConstantPool) (method : Method) : List String :=
  ("  " ++ " ".intercalate (modifiers method.access ++ [method.name ++ method.descriptor])) ::
    match method.body with
    | some body => bodyLines pool body
    | none => []

end Listing

/-- The listing of a class file. No line feed follows its last line. -/
def listing (file : ClassFile) : String :=
  "\n".intercalate (Listing.header file :: file.methods.flatMap (Listing.methodLines file.pool))

end ClassFile
end AccessorSynthesis
