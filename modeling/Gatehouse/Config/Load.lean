import Gatehouse.Config.Shape
import Gatehouse.Config.Violation
import Gatehouse.Toml.Reader

/-!
# Loading a configuration

From the text of a configuration file to a configuration that keeps every rule, or to the reason why
there is none.
-/

namespace Gatehouse

/-- Why no configuration was loaded. -/
inductive LoadError where
  /-- The file could not be read. -/
  | unreadable (reason : String)
  /-- The text is not a configuration. -/
  | malformed
  /-- The configuration breaks rules. -/
  | invalid (violations : List Violation)
  deriving DecidableEq, Repr

/-- The reason in words. -/
def LoadError.message : LoadError → String
  | .unreadable reason => "IO error: " ++ reason
  | .malformed => "Parse error: not a configuration"
  | .invalid vs => "Validation failed: " ++ Violation.messages vs

namespace Config

/-- The configuration itself, if it keeps every rule. -/
def validated (c : Config) : Except (List Violation) Config :=
  match c.violations with
  | [] => .ok c
  | vs => .error vs

/-- Reads the text of a configuration file. -/
def ofToml (s : String) : Except LoadError Config :=
  match Toml.read? s with
  | none => .error .malformed
  | some d =>
    match ofDatum .toml d with
    | .error _ => .error .malformed
    | .ok c => c.validated.mapError .invalid

/-- Loads the configuration from what a file was found to hold, or the default one where no file is
named. -/
def load : Option (Except String String) → Except LoadError Config
  | none => .ok {}
  | some (.error reason) => .error (.unreadable reason)
  | some (.ok content) => ofToml content

end Config

end Gatehouse
