/-!
# Qualified names

A qualified name is a text whose parts are separated by dots, such as `com.example.Screen`. This
file defines

* `QualifiedName.simpleName` — what follows the last dot;
* `QualifiedName.package?` — what precedes the last dot, if there is one;
* `QualifiedName.internalName` — the spelling with slashes that class files use;
* `QualifiedName.sort` — lists of names in the order of their code points.

`package?_eq_some` says that package and simple name make up the whole name.
-/

namespace AccessorSynthesis

/-- A dot separated name. Any text is allowed, also an empty one or one with empty parts. -/
structure QualifiedName where
  text : String
deriving DecidableEq, Inhabited

namespace QualifiedName

/-- The part after the last dot, or the whole name if it has no dot. -/
def simpleName (name : QualifiedName) : String :=
  String.ofList (name.text.toList.reverse.takeWhile (· != '.')).reverse

/-- The part before the last dot, if there is one. -/
def package? (name : QualifiedName) : Option String :=
  match name.text.toList.reverse.dropWhile (· != '.') with
  | [] => none
  | _ :: front => some (String.ofList front.reverse)

/-- The name with a slash in place of every dot. -/
def internalName (name : QualifiedName) : String :=
  String.ofList (name.text.toList.map fun c => if c = '.' then '/' else c)

/-- The names in ascending order of their texts, compared code point by code point. -/
def sort (names : List QualifiedName) : List QualifiedName :=
  names.mergeSort fun a b => decide (a.text ≤ b.text)

/-- A name with a package is the package, a dot and the simple name. -/
theorem package?_eq_some {name : QualifiedName} {package : String}
    (h : name.package? = some package) : name.text = package ++ "." ++ name.simpleName := by
  have split := List.takeWhile_append_dropWhile (p := (· != '.')) (l := name.text.toList.reverse)
  have head := List.head?_dropWhile_not (· != '.') name.text.toList.reverse
  rw [package?] at h
  cases rest : name.text.toList.reverse.dropWhile (· != '.') with
  | nil =>
      rw [rest] at h
      cases h
  | cons c front =>
      rw [rest] at h head split
      cases h
      have isDot : c = '.' := by simpa using head
      subst isDot
      apply String.toList_injective
      have text := congrArg List.reverse split
      simpa [simpleName] using text.symm

end QualifiedName

end AccessorSynthesis
