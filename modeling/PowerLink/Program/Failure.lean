import PowerLink.Console.Request
import PowerLink.Program.Config

/-!
# Failures of a run

What a run of the program can end with besides success.
-/

namespace PowerLink

inductive Failure
  | config (e : ConfigError)
  | schema (e : SchemaError)
  | noPort (port : String)
  | notOpened (port : String) (e : LinkError)
  | valuesUnreadable (path : String)
  /-- The canned values are no JSON object. -/
  | valuesMalformed (flaw : Json.Flaw)
  | request (e : RequestError)
  | link (e : LinkError)

namespace Failure

def message : Failure → String
  | .config _ => "Failed to load config"
  | .schema _ => "Invalid command schema"
  | .noPort _ => "Failed to find port"
  | .notOpened port _ => s!"Failed to open {port}"
  | .valuesUnreadable path => s!"Failed to read {path}"
  | .valuesMalformed _ => "Values file must be a JSON object"
  | .request e => e.message
  | .link e => e.message

/-- The messages of the causes, outermost first. -/
def causes : Failure → List String
  | .config e => [e.message]
  | .schema e => [e.message]
  | .noPort port => [s!"io error: serial port '{port}' not found"]
  | .notOpened _ e => e.chain
  | .request e => e.chain.drop 1
  | .link e => e.chain.drop 1
  | .valuesUnreadable _ | .valuesMalformed _ => []

end Failure

end PowerLink
