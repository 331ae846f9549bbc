import AccessorSynthesis.Declaration.Table

/-!
# Hierarchies

The supertypes of a declaration, direct and indirect ones, in breadth-first order. This file defines

* `Table.walk` — the declarations that a queue leads to, each once;
* `Table.ancestors` — a declaration and its supertypes, the nearer ones first;
* `Table.carrier?` — the nearest of them that carries an annotation.

The supertype graph may have cycles, and numbers that no declaration has are passed over. The walk
ends because each step visits one of finitely many declarations or shortens the queue.
-/

namespace AccessorSynthesis
namespace Table

/-- The declarations in `unvisited` to which the queue leads, in the order in which a breadth-first
walk meets them. -/
def walk (table : Table) (unvisited : Std.ExtTreeSet DeclarationId) :
    List DeclarationId → List DeclarationId
  | [] => []
  | id :: queue =>
      if _present : id ∈ unvisited then
        let supertypes := ((table.get? id).map Declaration.supertypes).getD []
        id :: table.walk (unvisited.erase id) (queue ++ supertypes)
      else table.walk unvisited queue
termination_by queue => (unvisited.size, queue.length)
decreasing_by
  · have smaller : (unvisited.erase id).size < unvisited.size := by
      have filled : unvisited.size ≠ 0 := by
        intro none
        have empty := Std.ExtTreeSet.eq_empty_iff_size_eq_zero.2 none
        simp [empty] at _present
      have contained : unvisited.contains id = true := _present
      rw [Std.ExtTreeSet.size_erase, if_pos contained]
      omega
    exact Prod.Lex.left _ _ smaller
  · exact Prod.Lex.right _ (by simp)

/-- The numbers of all declarations. -/
def ids (table : Table) : Std.ExtTreeSet DeclarationId := .ofList (List.range table.size)

/-- A declaration and its supertypes, direct and indirect, the nearer ones first. -/
def ancestors (table : Table) (id : DeclarationId) : List DeclarationId :=
  table.walk table.ids [id]

/-- The nearest declaration, the one asked for included, that itself carries an annotation. -/
def carrier? (table : Table) (id : DeclarationId) (mark : QualifiedName) :
    Option (DeclarationId × Declaration) :=
  (table.ancestors id).findSome? fun ancestor =>
    match table.get? ancestor with
    | some declaration => if declaration.carries mark then some (ancestor, declaration) else none
    | none => none

/-- Does the declaration or one of its supertypes carry the annotation? -/
def isTrackable (table : Table) (id : DeclarationId) (mark : QualifiedName) : Bool :=
  (table.carrier? id mark).isSome

end Table
end AccessorSynthesis
