import AccessorSynthesis.Configuration.Basic
import AccessorSynthesis.Decimal.Shortest
import AccessorSynthesis.Text.Quoted
import AccessorSynthesis.Toml.Document

/-!
# Options from a document

The options can be written in a TOML document, as entries of its outermost table. This file defines

* `Setting` — the keys that mean something;
* `Configuration.ofEntries` — the options that a list of entries sets;
* `Configuration.parse` — the options that a document sets.

Entries are taken in order, and the first one that is wrong is reported. What is not set keeps its
default.
-/

namespace AccessorSynthesis

/-- The options that a document can set. -/
inductive Setting where
  | enabled
  | accessorName
  | mark
  | overrideKey
deriving DecidableEq

namespace Setting

/-- The settings in the order in which messages list them. -/
def all : List Setting := [.enabled, .accessorName, .mark, .overrideKey]

/-- The key of a setting. -/
def key : Setting → String
  | .enabled => "enabled"
  | .accessorName => "accessorName"
  | .mark => "trackableAnnotation"
  | .overrideKey => "trackWith"

/-- The setting with a key. -/
def ofKey? (key : String) : Option Setting := all.find? fun setting => setting.key = key

/-- What kind of value a setting takes, as messages say it. -/
def expected : Setting → String
  | .enabled => "a boolean"
  | .accessorName | .mark | .overrideKey => "a string"

end Setting

/-- Why a document sets no options. -/
inductive ConfigurationError where
  /-- The document is not TOML. -/
  | malformed
  /-- No setting has that key. -/
  | unknownField (key : String)
  /-- A setting has a value of the wrong kind. -/
  | invalidType (setting : Setting) (value : Toml.Value)

/-- How messages describe a value. -/
def Toml.Value.description : Toml.Value → String
  | .string text => "string " ++ Quoted.encode text
  | .integer value => s!"integer `{value}`"
  | .float value => "floating point `" ++ floatText value ++ "`"
  | .boolean value => s!"boolean `{value}`"
  | .array _ | .tables _ => "sequence"
  | .dateTime _ | .table _ _ => "map"

/-- The text shown for a document that sets no options. -/
def ConfigurationError.message : ConfigurationError → String
  | .malformed => "malformed document"
  | .unknownField key =>
      let keys := Setting.all.map fun setting => "`" ++ setting.key ++ "`"
      "unknown field `" ++ key ++ "`, expected one of " ++ ", ".intercalate keys
  | .invalidType setting value =>
      "invalid type: " ++ value.description ++ ", expected " ++ setting.expected

namespace Configuration

/-- Takes up an entry. -/
def set (config : Configuration) (key : String) (value : Toml.Value) :
    Except ConfigurationError Configuration :=
  match Setting.ofKey? key, value with
  | none, _ => .error (.unknownField key)
  | some .enabled, .boolean enabled => .ok { config with enabled }
  | some .accessorName, .string accessorName => .ok { config with accessorName }
  | some .mark, .string text => .ok { config with mark := ⟨text⟩ }
  | some .overrideKey, .string overrideKey => .ok { config with overrideKey }
  | some setting, value => .error (.invalidType setting value)

/-- The options that entries set. -/
def ofEntries (entries : List (String × Toml.Value)) : Except ConfigurationError Configuration :=
  entries.foldlM (fun config entry => config.set entry.1 entry.2) standard

/-- The options that a document sets. -/
def parse (document : String) : Except ConfigurationError Configuration :=
  match Toml.parse? document with
  | none => .error .malformed
  | some entries => ofEntries entries.entries

end Configuration

end AccessorSynthesis
