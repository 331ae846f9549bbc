/-!
# Member flags

What is noted about a member of a declaration: eight bits, of which the lower four have names.
-/

namespace AccessorSynthesis

/-- The named bits of member flags. -/
inductive MemberFlag where
  | pub
  | final
  | abstract
  /-- The member was generated. -/
  | synthetic
deriving DecidableEq

/-- The place of the bit, counted from the lowest. -/
def MemberFlag.position : MemberFlag → Nat
  | .pub => 0
  | .final => 1
  | .abstract => 2
  | .synthetic => 3

/-- What is noted about a member. -/
structure MemberFlags where
  bits : UInt8
deriving DecidableEq

namespace MemberFlags

/-- The flags of which exactly the given ones are set. -/
def ofList (flags : List MemberFlag) : MemberFlags :=
  ⟨flags.foldl (fun bits flag => bits ||| UInt8.ofNat (1 <<< flag.position)) 0⟩

/-- Is the bit set? -/
def has (flags : MemberFlags) (flag : MemberFlag) : Bool :=
  flags.bits.toNat.testBit flag.position

end MemberFlags

end AccessorSynthesis
