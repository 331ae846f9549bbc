import AccessorSynthesis.ClassFile.Codec
import AccessorSynthesis.Compilation.Registry
import AccessorSynthesis.Compilation.Skeleton
import AccessorSynthesis.Report.Rendering

/-!
# Compilations

A compilation resolves the declarations that are to be compiled, perhaps several times, and then
generates a class file for each of them. This file defines

* `Table.resolve` — the table and the events after all visits of the extensions;
* `Table.classFile` — the class file of a declaration;
* `Resolution.flush` — all class files, unless there was a fatal message or one cannot be made;
* `Keyed.files` — the files that hold them.
-/

namespace AccessorSynthesis

/-! ## Resolution -/

/-- A table with the events of its resolution so far. -/
structure Resolution where
  table : Table
  events : List Event

namespace Resolution

/-- Has an extension visit a declaration. -/
def visit (resolution : Resolution) (id : DeclarationId) (extension : ResolveExtension) :
    Resolution :=
  let (table, events) := extension resolution.table id
  ⟨table, resolution.events ++ events⟩

/-- Has all extensions visit a declaration, in order. -/
def visitAll (resolution : Resolution) (registry : Registry) (id : DeclarationId) : Resolution :=
  registry.resolve.foldl (fun resolution extension => resolution.visit id extension) resolution

/-- One visit of every declaration, in order. -/
def pass (resolution : Resolution) (registry : Registry) (ids : List DeclarationId) : Resolution :=
  ids.foldl (fun resolution id => resolution.visitAll registry id) resolution

/-- As many visits of every declaration as asked for. -/
def passes (resolution : Resolution) (registry : Registry) (ids : List DeclarationId) :
    Nat → Resolution
  | 0 => resolution
  | count + 1 => (resolution.pass registry ids).passes registry ids count

/-- The messages reported. -/
def diagnostics (resolution : Resolution) : Diagnostics := ⟨Event.messages resolution.events⟩

end Resolution

/-- Resolves the compiled declarations. Which ones these are is decided before the first visit. -/
def Table.resolve (table : Table) (registry : Registry) (passes : Nat) : Resolution :=
  Resolution.passes ⟨table, []⟩ registry (table.compiled.map Prod.fst) passes

/-! ## Generation -/

/-- Has the extensions work on a class file, in order, until one fails. -/
def Registry.emitAll (table : Table) (id : DeclarationId) :
    List EmitExtension → ClassFile → Emission
  | [], file => ⟨file, [], .ok ()⟩
  | extension :: rest, file =>
      let emission := extension table id file
      match emission.result with
      | .error _ => emission
      | .ok () =>
          let later := emitAll table id rest emission.file
          { later with lines := emission.lines ++ later.lines }

/-- Log lines, and the result of what was done meanwhile. -/
structure Logged (ε α : Type) where
  lines : List LogLine
  result : Except ε α

/-- The class file of a declaration. -/
def Table.classFile (table : Table) (registry : Registry) (id : DeclarationId)
    (declaration : Declaration) : Logged EmitError ClassFile :=
  match table.skeleton declaration with
  | .error error => ⟨[], .error error⟩
  | .ok file =>
      let emission := Registry.emitAll table id registry.emit file
      ⟨emission.lines, emission.result.map fun _ => emission.file⟩

/-- The class files of a compilation, under the names of their classes. -/
abbrev Output := Keyed ClassFile.Bytes

/-- Why there is no output. -/
inductive FlushError where
  /-- There was a fatal message. -/
  | fatal
  /-- The class file of a declaration cannot be made. -/
  | emit (declaration : QualifiedName) (error : EmitError)
  /-- A class file is too large for the format. -/
  | classFile (error : ClassFile.Error)
deriving DecidableEq

/-- The text shown when there is no output. -/
def FlushError.message : FlushError → String
  | .fatal => "fatal diagnostics found"
  | .emit declaration error => s!"code generation failed for {declaration.text}: {error.message}"
  | .classFile error => s!"class file error: {error.message}"

namespace Resolution

/-- Generates the class files of the given declarations, behind those that are there already. -/
def generate (table : Table) (registry : Registry) (output : Output) :
    List (DeclarationId × Declaration) → Logged FlushError Output
  | [] => ⟨[], .ok output⟩
  | (id, declaration) :: rest =>
      let generated := table.classFile registry id declaration
      match generated.result with
      | .error error => ⟨generated.lines, .error (.emit declaration.name error)⟩
      | .ok file =>
          match file.toBytes with
          | .error error => ⟨generated.lines, .error (.classFile error)⟩
          | .ok bytes =>
              let later := generate table registry (output.put file.name bytes) rest
              ⟨generated.lines ++ later.lines, later.result⟩

/-- The class files of all compiled declarations, unless there was a fatal message. -/
def flush (resolution : Resolution) (registry : Registry) : Logged FlushError Output :=
  if resolution.diagnostics.hasFatal then ⟨[], .error .fatal⟩
  else generate resolution.table registry .empty resolution.table.compiled

end Resolution

/-! ## Files -/

/-- The parts of a path between slashes. Empty parts lead nowhere and are left out. -/
def pathParts (path : List Char) : List String :=
  ((path.splitOn '/').filter (· ≠ [])).map String.ofList

/-- The path of the file that holds a class, below the directory of the output. A name with a slash in
front leads out of that directory. -/
def classPath? (name : String) : Option String :=
  match name.toList with
  | '/' :: _ => none
  | front => some ("/".intercalate (pathParts (front ++ ".class".toList)))

/-- The files of an output below its directory with their contents, ordered by their paths. Of two
class files with the same path the later one counts. -/
def Keyed.files (output : Output) : List (String × ClassFile.Bytes) :=
  let placed := output.entries.filterMap fun (name, bytes) =>
    (classPath? name).map fun path => (path, bytes)
  let files := placed.foldl (fun (files : Output) (path, bytes) => files.put path bytes) .empty
  files.entries.mergeSort fun a b => decide (a.1 ≤ b.1)

end AccessorSynthesis
