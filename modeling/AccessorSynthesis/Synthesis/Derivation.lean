import AccessorSynthesis.Declaration.Basic
import AccessorSynthesis.Report.Message

/-!
# Deriving accessors

Which declarations can have an accessor, and which flags it gets. An accessor is always public and
marked as generated. On an interface it is abstract. On any other declaration it is final, unless
subclasses are possible, since each subclass gets an accessor of its own.
-/

namespace AccessorSynthesis
namespace Declaration

/-- The problem of a declaration whose shape leaves no room for an accessor. -/
def restriction? (declaration : Declaration) (mark : QualifiedName) : Option Diagnostic :=
  match declaration.shape with
  | .valueAggregate | .wrapper => some ⟨.unsupportedShape mark.simpleName, declaration.span⟩
  | .plainClass | .interface | .object => none

/-- The flags of the declaration's accessor. -/
def accessorFlags (declaration : Declaration) : MemberFlags :=
  match declaration.shape with
  | .interface => .ofList [.pub, .synthetic, .abstract]
  | _ =>
      if declaration.isOpen || declaration.isAbstract then .ofList [.pub, .synthetic]
      else .ofList [.pub, .synthetic, .final]

/-- The accessor of a declaration. -/
def accessor (declaration : Declaration) (owner : DeclarationId) (name literal : String) :
    Accessor :=
  { owner, name, literal, flags := declaration.accessorFlags }

end Declaration
end AccessorSynthesis
