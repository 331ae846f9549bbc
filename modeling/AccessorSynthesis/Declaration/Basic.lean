import AccessorSynthesis.Declaration.MemberFlags
import AccessorSynthesis.Declaration.QualifiedName
import AccessorSynthesis.Keyed
import AccessorSynthesis.Source.Span

/-!
# Declarations

A declaration is a class or something like it. Supertypes are named by their numbers in the table
of declarations and need not be there. This file defines

* `Mark` — an annotation with its arguments;
* `Member` — what is known of a member, which the declaration keeps under the member's name;
* `Declaration`;
* `Accessor` — the method that is generated for a declaration.

Declarations with a span are compiled; those without one are only known.
-/

namespace AccessorSynthesis

/-- The number of a declaration in the table, counted from zero. -/
abbrev DeclarationId := Nat

/-! ## Annotations -/

/-- The value of an argument of an annotation. -/
inductive ArgumentValue where
  | text (value : String)
  | integer (value : Int)
  | boolean (value : Bool)
deriving DecidableEq

/-- An annotation with its arguments. -/
structure Mark where
  name : QualifiedName
  arguments : Keyed ArgumentValue
deriving DecidableEq

namespace Mark

/-- The annotation without arguments. -/
def ofName (name : QualifiedName) : Mark := ⟨name, .empty⟩

/-- The annotation with one more argument, which replaces an earlier one of the same key. -/
def withArgument (mark : Mark) (key : String) (value : ArgumentValue) : Mark :=
  { mark with arguments := mark.arguments.put key value }

/-- The value of an argument. -/
def argument? (mark : Mark) (key : String) : Option ArgumentValue := mark.arguments.find? key

end Mark

/-! ## Members and declarations -/

/-- What is known of a member. -/
structure Member where
  flags : MemberFlags
  returnType : QualifiedName
  span : Option Span
deriving DecidableEq

/-- The kinds of declarations. -/
inductive Shape where
  | plainClass
  | interface
  | object
  /-- A class whose equality and copies are generated from its contents. -/
  | valueAggregate
  /-- A class of a single field, which stands for the class at run time. -/
  | wrapper
deriving DecidableEq

/-- A class or something like it. -/
structure Declaration where
  name : QualifiedName
  shape : Shape
  isOpen : Bool
  isAbstract : Bool
  marks : List Mark
  superclass : Option DeclarationId
  interfaces : List DeclarationId
  members : Keyed Member
  span : Option Span
deriving DecidableEq

namespace Declaration

/-- The direct supertypes, the superclass first. -/
def supertypes (declaration : Declaration) : List DeclarationId :=
  declaration.superclass.toList ++ declaration.interfaces

/-- The first annotation of that name. -/
def mark? (declaration : Declaration) (name : QualifiedName) : Option Mark :=
  declaration.marks.find? fun mark => mark.name = name

/-- Does the declaration itself carry an annotation of that name? -/
def carries (declaration : Declaration) (name : QualifiedName) : Bool :=
  (declaration.mark? name).isSome

/-- Is the declaration compiled? -/
def isCompiled (declaration : Declaration) : Bool := declaration.span.isSome

end Declaration

/-! ## Accessors -/

/-- The method that is generated for a declaration and returns a text. -/
structure Accessor where
  owner : DeclarationId
  name : String
  literal : String
  flags : MemberFlags
deriving DecidableEq

end AccessorSynthesis
