import AccessorSynthesis.Configuration.Settings
import AccessorSynthesis.Report.Severity

/-!
# Options of a directory

The options of a directory stand in a file of a fixed name. Without that file the defaults hold.
-/

namespace AccessorSynthesis

/-- What is found where the file with the options should be. -/
inductive Lookup where
  | missing
  /-- There is something that cannot be read, such as a directory. -/
  | unreadable
  | contents (bytes : List UInt8)

/-- Why a directory gives no options. -/
inductive LoadError where
  | unreadable (path : String)
  | invalid (path : String) (cause : ConfigurationError)

/-- The text shown for a directory that gives no options. -/
def LoadError.message : LoadError → String
  | .unreadable path => "failed to read " ++ path
  | .invalid path _ => "invalid configuration in " ++ path

/-- The name of the file with the options. -/
def configurationFile : String := ".trackable.toml"

namespace Configuration

/-- The options of a directory, and what the log says about looking for them. The file has to be
UTF-8. -/
def load (directory : String) (found : Lookup) : Except LoadError Configuration × List LogLine :=
  let path := directory ++ "/" ++ configurationFile
  match found with
  | .missing => (.ok standard, [⟨.debug, path ++ " not found, using the default options"⟩])
  | .unreadable => (.error (.unreadable path), [])
  | .contents bytes =>
      match String.fromUTF8? ⟨bytes.toArray⟩ with
      | none => (.error (.unreadable path), [])
      | some document => ((parse document).mapError (.invalid path), [])

end Configuration

end AccessorSynthesis
