import AccessorSynthesis.ClassFile.Basic
import AccessorSynthesis.Configuration.Basic
import AccessorSynthesis.Declaration.Table
import AccessorSynthesis.Report.Severity

/-!
# Emitting accessors

An accessor becomes a method of the class file of its declaration. This file defines

* `EmitError` — why that can fail;
* `Emission` — a class file after an attempt, with the log lines and the result;
* `ClassFile.emitAccessor` — writes one accessor;
* `Configuration.emit` — writes the accessor of a declaration, if it has one of the right name.
-/

namespace AccessorSynthesis

open ClassFile (AccessFlags Instruction MethodBody Update)

/-- Why an accessor is not emitted. -/
inductive EmitError where
  /-- The declaration has a generated member and no accessor to go with it. -/
  | missingAccessor (declaration : QualifiedName) (member : String)
  /-- No declaration has that number. -/
  | unknownDeclaration (id : DeclarationId)
  /-- Declarations of this shape have no accessors. -/
  | unexpectedShape (name : String)
  /-- The class file does not take the method. -/
  | classFile (error : ClassFile.Error)
deriving DecidableEq

/-- The text shown for an accessor that is not emitted. -/
def EmitError.message : EmitError → String
  | .missingAccessor declaration member =>
      s!"{declaration.text} has a synthetic '{member}' member with no registered accessor"
  | .unknownDeclaration id => s!"declaration #{id} does not exist"
  | .unexpectedShape name => s!"{name} cannot hold a generated accessor"
  | .classFile error => s!"invalid class file: {error.message}"

/-- A class file after a change was tried, what was logged, and how the change ended. -/
structure Emission where
  file : ClassFile
  lines : List LogLine
  result : Except EmitError Unit

/-- The access word of a member. Whether the member was generated is not written. -/
def ClassFile.AccessFlags.ofMember (flags : MemberFlags) : AccessFlags :=
  .ofList <|
    (if flags.has .pub then [.pub] else []) ++ (if flags.has .final then [.final] else [])
      ++ (if flags.has .abstract then [.abstract] else [])

namespace ClassFile

/-- The descriptor of accessors: no arguments, and a text as the result. -/
def accessorDescriptor : String := "()Ljava/lang/String;"

/-- Adds the method of an accessor. -/
def addAccessor (file : ClassFile) (accessor : Accessor) (body : Option MethodBody) : Emission :=
  let line : LogLine :=
    ⟨.debug, "emitting " ++ file.name ++ "." ++ accessor.name ++ "() returning \""
      ++ accessor.literal ++ "\""⟩
  let method := addMethod (.ofMember accessor.flags) accessor.name accessorDescriptor body
  match method.run.run file with
  | (result, file) => ⟨file, [line], result.mapError .classFile⟩

/-- Writes an accessor into the class file of a declaration. Interfaces only declare it. -/
def emitAccessor (file : ClassFile) (shape : Shape) (accessor : Accessor) : Emission :=
  match shape with
  | .interface => file.addAccessor accessor none
  | .plainClass | .object =>
      match (loadString accessor.literal).run.run file with
      | (.error error, file) => ⟨file, [], .error (.classFile error)⟩
      | (.ok load, file) => file.addAccessor accessor (some ⟨1, 1, [load, .returnReference]⟩)
  | .valueAggregate | .wrapper => ⟨file, [], .error (.unexpectedShape file.name)⟩

end ClassFile

namespace Configuration

/-- Writes the accessor of a declaration into its class file. A declaration without a generated
member of the accessor's name is left alone. -/
def emit (config : Configuration) (table : Table) (id : DeclarationId) (file : ClassFile) :
    Emission :=
  if !config.enabled then ⟨file, [], .ok ()⟩
  else
    match table.get? id with
    | none => ⟨file, [], .error (.unknownDeclaration id)⟩
    | some declaration =>
        let isGenerated :=
          (declaration.members.find? config.accessorName).any fun member => member.flags.has .synthetic
        if !isGenerated then ⟨file, [], .ok ()⟩
        else
          match (table.accessor? id).filter fun accessor => accessor.name = config.accessorName with
          | none => ⟨file, [], .error (.missingAccessor declaration.name config.accessorName)⟩
          | some accessor =>
              let emission := file.emitAccessor declaration.shape accessor
              match emission.result with
              | .ok () => emission
              | .error error =>
                  let line : LogLine :=
                    ⟨.error, "failed to emit " ++ declaration.name.text ++ "." ++ config.accessorName
                      ++ "(): " ++ error.message⟩
                  { emission with lines := emission.lines ++ [line] }

end Configuration

end AccessorSynthesis
