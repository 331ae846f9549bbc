import AccessorSynthesis.Declaration.Basic
import AccessorSynthesis.Report.Message

/-!
# Overrides

An annotation can say what the accessor of its declaration returns, by an argument that is a text.
Only the annotation on the declaration itself counts, never one on a supertype. Arguments of other
kinds are passed over, with a line in the log.
-/

namespace AccessorSynthesis
namespace Declaration

/-- The argument of the annotation, whatever its kind. -/
def argument? (declaration : Declaration) (mark : QualifiedName) (key : String) :
    Option ArgumentValue :=
  (declaration.mark? mark).bind fun mark => mark.argument? key

/-- The text that the annotation gives. -/
def override? (declaration : Declaration) (mark : QualifiedName) (key : String) : Option String :=
  match declaration.argument? mark key with
  | some (.text value) => some value
  | _ => none

/-- The line about an argument that is passed over. -/
def ignoredLine (declaration : Declaration) (key value : String) : LogLine where
  level := .debug
  text := s!"ignoring non-string '{key}' argument on {declaration.name.text}: {value}"

/-- What the log says about looking for an override. -/
def overrideLines (declaration : Declaration) (mark : QualifiedName) (key : String) :
    List LogLine :=
  match declaration.argument? mark key with
  | some (.integer value) => [declaration.ignoredLine key s!"Int({value})"]
  | some (.boolean value) => [declaration.ignoredLine key s!"Bool({value})"]
  | _ => []

end Declaration
end AccessorSynthesis
