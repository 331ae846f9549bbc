import AccessorSynthesis.Configuration.Basic
import AccessorSynthesis.Declaration.Hierarchy
import AccessorSynthesis.Synthesis.Derivation
import AccessorSynthesis.Synthesis.Override

/-!
# Synthesis

A declaration that carries the annotation, or inherits from one that does, is trackable and gets an
accessor. This file defines

* `Configuration.examine` — what is to become of a declaration, and what is said about it;
* `Configuration.synthesize` — the same with the table brought up to date.

A declaration is settled once: an accessor is not replaced, and a declaration that was refused one
is neither asked again nor reported again.
-/

namespace AccessorSynthesis

/-- What is to become of a declaration. -/
inductive Verdict where
  /-- It is left alone: nothing is generated, it was refused before, or it does not exist. -/
  | leave
  /-- It has an accessor already. -/
  | keep (accessor : Accessor)
  /-- Neither it nor a supertype carries the annotation. -/
  | pass
  /-- It should have an accessor and cannot have one. -/
  | refuse
  /-- It gets an accessor. -/
  | grant (accessor : Accessor)
deriving DecidableEq

/-- A table after a declaration was looked at, the declaration's accessor and what was said. -/
structure Synthesis where
  table : Table
  accessor : Option Accessor
  events : List Event

namespace Configuration

/-- What is to become of a trackable declaration, which has its annotation from `origin`. -/
def examineTrackable (config : Configuration) (id : DeclarationId) (declaration : Declaration)
    (origin : Declaration) : Verdict × List Event :=
  match declaration.restriction? config.mark with
  | some diagnostic =>
      (.refuse,
        [.message (.trace s!"{declaration.name.text} is a data or inline class"),
          .message diagnostic.message])
  | none =>
      match declaration.members.find? config.accessorName with
      | some _ =>
          let diagnostic : Diagnostic := ⟨.nameTaken config.accessorName, declaration.span⟩
          (.refuse, [.message diagnostic.message])
      | none =>
          let literal := (declaration.override? config.mark config.overrideKey).getD
            declaration.name.simpleName
          let lines := declaration.overrideLines config.mark config.overrideKey
          let trace := declaration.name.text ++ " is trackable through " ++ origin.name.text ++ ", "
            ++ config.accessorName ++ "() returns \"" ++ literal ++ "\""
          (.grant (declaration.accessor id config.accessorName literal),
            lines.map Event.log ++ [.message (.trace trace)])

/-- What is to become of a declaration, and what is said about it. -/
def examine (config : Configuration) (table : Table) (id : DeclarationId) : Verdict × List Event :=
  if !config.enabled then (.leave, [])
  else
    match table.accessor? id with
    | some accessor => (.keep accessor, [])
    | none =>
        if table.isRejected id then (.leave, [])
        else
          match table.get? id with
          | none => (.leave, [])
          | some declaration =>
              match table.carrier? id config.mark with
              | none =>
                  (.pass, [.message (.trace s!"{declaration.name.text} is not trackable")])
              | some (_, origin) => config.examineTrackable id declaration origin

/-- Looks at a declaration and brings the table up to date. -/
def synthesize (config : Configuration) (table : Table) (id : DeclarationId) : Synthesis :=
  match config.examine table id with
  | (.leave, events) => ⟨table, none, events⟩
  | (.keep accessor, events) => ⟨table, some accessor, events⟩
  | (.pass, events) => ⟨table, none, events⟩
  | (.refuse, events) => ⟨table.reject id, none, events⟩
  | (.grant accessor, events) =>
      match table.register accessor with
      | .ok table => ⟨table, some accessor, events⟩
      | .error error =>
          let line : LogLine :=
            ⟨.error, s!"could not register the accessor of #{id}: {error.message}"⟩
          ⟨table, none, events ++ [.log line]⟩

end Configuration

end AccessorSynthesis
