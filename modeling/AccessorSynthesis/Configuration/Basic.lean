import AccessorSynthesis.Declaration.QualifiedName

/-!
# Options

The options of a compilation. Each has a default, which holds where nothing else is said.
-/

namespace AccessorSynthesis

/-- The options of a compilation. -/
structure Configuration where
  /-- Are accessors generated at all? -/
  enabled : Bool := true
  /-- The name of accessors. -/
  accessorName : String := "track"
  /-- The annotation that asks for accessors. -/
  mark : QualifiedName := ⟨"com.github.hadilq.trackable.annotations.Trackable"⟩
  /-- The argument of the annotation that says what the accessor returns. -/
  overrideKey : String := "trackWith"
deriving DecidableEq

namespace Configuration

/-- The options where nothing is said. -/
def standard : Configuration := {}

end Configuration

end AccessorSynthesis
