import AccessorSynthesis.Compilation.Emission
import AccessorSynthesis.Synthesis.Basic

/-!
# Extensions

A compilation calls extensions: one kind when a declaration is resolved, the other when its class
file is generated. The registry lists both kinds in the order in which they run. This file defines

* `ResolveExtension`, `EmitExtension` and the two of them that make accessors;
* `Registry`;
* `Configuration.install` — puts those two in front of all others, unless they are disabled.
-/

namespace AccessorSynthesis

/-- What an extension does when a declaration is resolved. -/
abbrev ResolveExtension := Table → DeclarationId → Table × List Event

/-- What an extension does when the class file of a declaration is generated. -/
abbrev EmitExtension := Table → DeclarationId → ClassFile → Emission

/-- The extensions of a compilation, in the order in which they run. -/
structure Registry where
  resolve : List ResolveExtension
  emit : List EmitExtension

namespace Registry

/-- No extensions. -/
def empty : Registry := ⟨[], []⟩

/-- Does the registry have no extensions of either kind? -/
def isEmpty (registry : Registry) : Bool := registry.resolve.isEmpty && registry.emit.isEmpty

/-- Adds an extension for resolution, in front of the others or behind them. -/
def addResolve (registry : Registry) (inFront : Bool) (extension : ResolveExtension) : Registry :=
  if inFront then { registry with resolve := extension :: registry.resolve }
  else { registry with resolve := registry.resolve ++ [extension] }

/-- Adds an extension for generation, in front of the others or behind them. -/
def addEmit (registry : Registry) (inFront : Bool) (extension : EmitExtension) : Registry :=
  if inFront then { registry with emit := extension :: registry.emit }
  else { registry with emit := registry.emit ++ [extension] }

/-- A registry in one line, by the numbers of its extensions. -/
def text (registry : Registry) : String :=
  "ExtensionRegistry \x7b resolve: " ++ toString registry.resolve.length ++ ", codegen: "
    ++ toString registry.emit.length ++ " \x7d"

end Registry

namespace Configuration

/-- Generates the accessor of a declaration. -/
def resolveExtension (config : Configuration) : ResolveExtension := fun table id =>
  let synthesis := config.synthesize table id
  (synthesis.table, synthesis.events)

/-- Puts the extensions that make accessors in front of all others. Nothing is installed if they are
disabled. -/
def install (config : Configuration) (registry : Registry) : Registry × List LogLine :=
  if !config.enabled then
    (registry, [⟨.info, "Trackable is disabled, no extensions registered"⟩])
  else
    ((registry.addResolve true config.resolveExtension).addEmit true config.emit, [])

end Configuration

end AccessorSynthesis
