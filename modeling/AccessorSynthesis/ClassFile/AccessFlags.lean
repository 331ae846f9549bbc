/-!
# Access flags

The access word of a class or a method. Its lower fifteen bits have names, the upper one is kept
as it is.
-/

namespace AccessorSynthesis
namespace ClassFile

/-- The named bits of an access word. -/
inductive AccessFlag where
  | pub
  | priv
  | prot
  | static
  | final
  /-- On methods this bit means that calls are synchronized. -/
  | super
  | bridge
  | varargs
  | native
  | interface
  | abstract
  | strict
  | synthetic
  | annotationKind
  | enum
deriving DecidableEq

namespace AccessFlag

/-- The named bits, the lowest first. -/
def all : List AccessFlag :=
  [.pub, .priv, .prot, .static, .final, .super, .bridge, .varargs, .native, .interface,
    .abstract, .strict, .synthetic, .annotationKind, .enum]

/-- The place of the bit in the word, counted from the lowest. -/
def position : AccessFlag → Nat
  | .pub => 0
  | .priv => 1
  | .prot => 2
  | .static => 3
  | .final => 4
  | .super => 5
  | .bridge => 6
  | .varargs => 7
  | .native => 8
  | .interface => 9
  | .abstract => 10
  | .strict => 11
  | .synthetic => 12
  | .annotationKind => 13
  | .enum => 14

/-- The word in which this bit alone is set. -/
def mask (flag : AccessFlag) : UInt16 := UInt16.ofNat (1 <<< flag.position)

/-- The usual name of the bit. -/
def name : AccessFlag → String
  | .pub => "public"
  | .priv => "private"
  | .prot => "protected"
  | .static => "static"
  | .final => "final"
  | .super => "super"
  | .bridge => "bridge"
  | .varargs => "varargs"
  | .native => "native"
  | .interface => "interface"
  | .abstract => "abstract"
  | .strict => "strict"
  | .synthetic => "synthetic"
  | .annotationKind => "annotation"
  | .enum => "enum"

end AccessFlag

/-- The access word of a class or a method. -/
structure AccessFlags where
  bits : UInt16
deriving DecidableEq

namespace AccessFlags

/-- The word in which exactly the given bits are set. -/
def ofList (flags : List AccessFlag) : AccessFlags :=
  ⟨flags.foldl (fun bits flag => bits ||| flag.mask) 0⟩

/-- Is the bit set? -/
def has (access : AccessFlags) (flag : AccessFlag) : Bool :=
  access.bits.toNat.testBit flag.position

/-- The set bits that have a name, the lowest first. -/
def toList (access : AccessFlags) : List AccessFlag := AccessFlag.all.filter access.has

end AccessFlags

end ClassFile
end AccessorSynthesis
