import Std.Data.ExtTreeMap
import Std.Data.ExtTreeSet
import AccessorSynthesis.Declaration.Basic

/-!
# The table of declarations

The table holds the declarations of a compilation, numbered in the order in which they came, the
accessors generated so far and the declarations that were refused one. This file defines

* `Table.add`, `Table.addMember`, `Table.register` — what can be added, and why it may be refused;
* `Table.get?`, `Table.idOf?`, `Table.accessor?`, `Table.isRejected` — what the table says.

Names of declarations are distinct, and so are the names of the members of a declaration. A
declaration has at most one accessor, which is also one of its members.
-/

namespace AccessorSynthesis

/-- Declarations with their accessors. -/
structure Table where
  declarations : Array Declaration
  accessors : Std.ExtTreeMap DeclarationId Accessor
  rejected : Std.ExtTreeSet DeclarationId

/-- A name that a declaration already has. -/
structure NameTaken where
  name : QualifiedName
deriving DecidableEq

/-- The text shown for a name that is taken. -/
def NameTaken.message (taken : NameTaken) : String := s!"'{taken.name.text}' is already defined"

/-- Why a member or an accessor is not added. -/
inductive RegistrationError where
  | unknownDeclaration (id : DeclarationId)
  | alreadyRegistered (id : DeclarationId)
  | memberExists (name : String)
deriving DecidableEq

/-- The text shown for a member or an accessor that is not added. -/
def RegistrationError.message : RegistrationError → String
  | .unknownDeclaration id => s!"declaration #{id} does not exist"
  | .alreadyRegistered id => s!"declaration #{id} already has an accessor"
  | .memberExists name => s!"a member named '{name}' is already declared"

namespace Table

/-- The table without declarations. -/
def empty : Table := ⟨#[], ∅, ∅⟩

/-! ## What the table says -/

/-- The number of declarations. -/
def size (table : Table) : Nat := table.declarations.size

/-- The declaration with a number. -/
def get? (table : Table) (id : DeclarationId) : Option Declaration := table.declarations[id]?

/-- The number of the declaration with a name. -/
def idOf? (table : Table) (name : QualifiedName) : Option DeclarationId :=
  table.declarations.findIdx? fun declaration => declaration.name = name

/-- The declarations with their numbers. -/
def toList (table : Table) : List (DeclarationId × Declaration) :=
  table.declarations.toList.zipIdx.map fun (declaration, id) => (id, declaration)

/-- The declarations that are compiled, with their numbers. -/
def compiled (table : Table) : List (DeclarationId × Declaration) :=
  table.toList.filter fun (_, declaration) => declaration.isCompiled

/-- The accessor of a declaration. -/
def accessor? (table : Table) (id : DeclarationId) : Option Accessor := table.accessors[id]?

/-- The accessors, ordered by the numbers of their owners. -/
def accessorList (table : Table) : List Accessor := table.accessors.toList.map Prod.snd

/-- Was an accessor refused to the declaration? -/
def isRejected (table : Table) (id : DeclarationId) : Bool := decide (id ∈ table.rejected)

/-! ## What can be added -/

/-- Adds a declaration and returns its number. -/
def add (table : Table) (declaration : Declaration) : Except NameTaken (DeclarationId × Table) :=
  match table.idOf? declaration.name with
  | some _ => .error ⟨declaration.name⟩
  | none =>
      .ok (table.size, { table with declarations := table.declarations.push declaration })

/-- Adds a member to a declaration. -/
def addMember (table : Table) (id : DeclarationId) (name : String) (member : Member) :
    Except RegistrationError Table :=
  match table.get? id with
  | none => .error (.unknownDeclaration id)
  | some declaration =>
      match declaration.members.find? name with
      | some _ => .error (.memberExists name)
      | none =>
          let changed := { declaration with members := declaration.members.append name member }
          .ok { table with declarations := table.declarations.setIfInBounds id changed }

/-- The return type of accessors. -/
def accessorType : QualifiedName := ⟨"kotlin.String"⟩

/-- Adds an accessor and the member that it is. -/
def register (table : Table) (accessor : Accessor) : Except RegistrationError Table :=
  match table.get? accessor.owner with
  | none => .error (.unknownDeclaration accessor.owner)
  | some declaration =>
      match table.accessor? accessor.owner with
      | some _ => .error (.alreadyRegistered accessor.owner)
      | none => do
          let member : Member := ⟨accessor.flags, accessorType, declaration.span⟩
          let table ← table.addMember accessor.owner accessor.name member
          return { table with accessors := table.accessors.insert accessor.owner accessor }

/-- Notes that a declaration was refused an accessor. -/
def reject (table : Table) (id : DeclarationId) : Table :=
  { table with rejected := table.rejected.insert id }

end Table

end AccessorSynthesis
