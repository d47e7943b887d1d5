import InputDeck.Host.Basic
import InputDeck.Json.Basic
import InputDeck.Text.Printable

/-!
# Errors

Every failure is a cause; `Error.message` is the one place that words it. The text for data that is
malformed names its format only.
-/

namespace InputDeck

open InputDeck.Host

def bundledVersions : List String := ["14.1", "16.2"]

inductive CatalogFault where
  /-- The data is no JSON, or of another shape. -/
  | malformed
  | notBundled
  | unreadable (path : Path) (fault : Fault)
  /-- Neither the release asked for nor the default one can be loaded. -/
  | noFallback
  deriving DecidableEq, Repr

def CatalogFault.message : CatalogFault → String
  | malformed => "<json>"
  | notBundled => "no bundled variable data (available: " ++ ", ".intercalate bundledVersions ++ ")"
  | unreadable path fault => path.text ++ ": " ++ fault.message
  | noFallback => "unable to load variable information for any version"

inductive SettingsFault where
  | wrongType (found : Json) (expected : String)
  | tooLong (count : Nat)

namespace SettingsFault

/-- The kind of a value and, if it is a scalar, the value itself. -/
def describe : Json → String
  | .null => "null"
  | .bool b => "boolean `" ++ toString b ++ "`"
  | .number n =>
    match n.value? with
    | some (.integer i) => "integer `" ++ toString i ++ "`"
    | some v => "floating point `" ++ v.text ++ "`"
    | none => "number"
  | .string s => "string " ++ Text.quoted s
  | .array _ => "sequence"
  | .object _ => "map"
  | .unpaired => "string"

def message : SettingsFault → String
  | wrongType found expected => "invalid type: " ++ describe found ++ ", expected " ++ expected
  | tooLong count =>
    "invalid length " ++ toString count ++ ", expected fewer elements in array"

end SettingsFault

inductive Objection where
  | noInput
  | invalidValues (count files : Nat)
  | fileNotFound (path : Path)
  /-- The root cannot be watched. -/
  | noParent
  | unknownVariable (name : String)
  | invalidVersion (version : String)
  | noVariables (path : Path)
  deriving DecidableEq, Repr

def Objection.message : Objection → String
  | noInput => "No input files given"
  | invalidValues count files =>
    toString count ++ " invalid values in " ++ toString files ++ " file(s)"
  | fileNotFound path => "File not found: " ++ path.text
  | noParent => "Cannot determine parent directory"
  | unknownVariable name => "Unknown variable: " ++ name
  | invalidVersion version => "Invalid Octopus version '" ++ version ++ "'"
  | noVariables path => "No variables found in " ++ path.text

inductive Error where
  | host (fault : Fault)
  | yaml
  | catalog (version : String) (fault : CatalogFault)
  | settings (fault : SettingsFault)
  | objection (cause : Objection)

def Error.message : Error → String
  | host fault => "IO error: " ++ fault.message
  | yaml => "YAML parsing error: <yaml>"
  | catalog version fault =>
    "Failed to load variable catalog for Octopus " ++ version ++ ": " ++ fault.message
  | settings fault => "Configuration error: " ++ fault.message
  | objection cause => "Validation error: " ++ cause.message

def ofHost {α : Type} : Except Fault α → Except Error α
  | .ok a => .ok a
  | .error fault => .error (.host fault)

end InputDeck
