import AccessorSynthesis.Configuration.Basic

/-!
# Chosen options

Options are chosen one by one. This file defines

* `Choices` — the options that are chosen;
* `Configuration.choose` — options with the chosen ones in place of what they were;
* `Configuration.build` — the options that are chosen, and the defaults of the others.
-/

namespace AccessorSynthesis

/-- The options that are chosen. -/
structure Choices where
  enabled : Option Bool := none
  accessorName : Option String := none
  mark : Option QualifiedName := none
  overrideKey : Option String := none
deriving DecidableEq

namespace Configuration

/-- Replaces the options that are chosen. -/
def choose (config : Configuration) (choices : Choices) : Configuration where
  enabled := choices.enabled.getD config.enabled
  accessorName := choices.accessorName.getD config.accessorName
  mark := choices.mark.getD config.mark
  overrideKey := choices.overrideKey.getD config.overrideKey

/-- The options that are chosen, and the defaults of the others. -/
def build (choices : Choices) : Configuration := standard.choose choices

end Configuration

end AccessorSynthesis
