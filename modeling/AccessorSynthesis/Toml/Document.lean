import AccessorSynthesis.Toml.Expression

/-!
# Documents

The entries of a TOML document in the order of their keys' first appearance, each header opening a
table that the entries behind it belong to. This file defines

* `Keyed.modifyAt` — a change of the table that a path leads to, which makes the tables on the way;
* `Builder` — the tables of a document while it is read;
* `Toml.parse?` — the entries of a document.

No table is written twice. A table that was only implied by the header of another one may still get
a header of its own, and then takes the place of a new key.
-/

namespace AccessorSynthesis
namespace Toml

/-- Changes the table that a path leads to, and returns what the change returns. Tables that are
missing on the way are made. A path leads through the latest element of an array of tables, and
never into an inline table; if it belongs to a dotted key, it does not lead into a table with a
header. -/
def modifyAt {α : Type} (isDotted : Bool)
    (change : TableForm → Keyed Value → Option (α × Keyed Value)) :
    List String → TableForm → Keyed Value → Option (α × Keyed Value)
  | [], form, entries => change form entries
  | name :: path, _, entries =>
      match entries.find? name with
      | none => do
          let form := if isDotted then TableForm.dotted else .implied
          let (result, inner) ← modifyAt isDotted change path form .empty
          return (result, entries.append name (.table form inner))
      | some (.table form inner) =>
          if form = .inline ∨ (isDotted ∧ form = .header) then none
          else do
            let (result, inner) ← modifyAt isDotted change path form inner
            return (result, entries.put name (.table form inner))
      | some (.tables (latest :: earlier)) => do
          let (result, inner) ← modifyAt isDotted change path .header latest
          return (result, entries.put name (.tables (inner :: earlier)))
      | some _ => none

/-- The tables of a document while it is read: all but the one that is being written, that one, and
where it belongs. -/
structure Builder where
  root : Keyed Value
  current : Keyed Value
  path : List String
  isElement : Bool

namespace Builder

/-- Nothing is read yet, and the outermost table is being written. -/
def start : Builder := ⟨.empty, .empty, [], false⟩

/-- Puts the table that is being written where it belongs. -/
def finish (builder : Builder) : Option (Keyed Value) :=
  match builder.path.getLast? with
  | none => some builder.current
  | some name => do
      let place (_ : TableForm) (entries : Keyed Value) : Option (Unit × Keyed Value) :=
        match builder.isElement, entries.find? name with
        | true, some (.tables elements) =>
            some ((), entries.put name (.tables (builder.current :: elements)))
        | true, none => some ((), entries.append name (.tables [builder.current]))
        | false, none => some ((), entries.append name (.table .header builder.current))
        | _, some _ => none
      let ((), root) ← modifyAt false place builder.path.dropLast .header builder.root
      return root

/-- Begins to write the table of a header. -/
def open? (builder : Builder) (isElement : Bool) (path : List String) : Option Builder := do
  let root ← builder.finish
  let name ← path.getLast?
  let take (_ : TableForm) (entries : Keyed Value) : Option (Keyed Value × Keyed Value) :=
    match isElement, entries.find? name with
    | true, some (.tables _) => some (.empty, entries)
    | _, none => some (.empty, entries)
    | false, some (.table .implied inner) => some (inner, entries.erase name)
    | _, some _ => none
  let (current, root) ← modifyAt false take path.dropLast .header root
  return { root, current, path, isElement }

/-- Puts a value into the table that is being written. -/
def insert? (builder : Builder) (key : List String) (value : Value) : Option Builder := do
  let name ← key.getLast?
  let path := key.dropLast
  let put (form : TableForm) (entries : Keyed Value) : Option (Unit × Keyed Value) :=
    match entries.find? name with
    | some _ => none
    | none =>
        if path = [] ∨ form = .dotted then some ((), entries.append name value) else none
  let ((), current) ← modifyAt true put path .header builder.current
  return { builder with current }

/-- Takes up an expression. -/
def step (builder : Builder) : Expression → Option Builder
  | .entry key value => builder.insert? key value
  | .header isElement key => builder.open? isElement key

end Builder

/-- The entries of a document, unless it is malformed. -/
def parse? (document : String) : Option (Keyed Value) := do
  let expressions ← expressions? document
  let builder ← expressions.foldlM Builder.step Builder.start
  builder.finish

end Toml
end AccessorSynthesis
