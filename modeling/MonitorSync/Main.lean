import MonitorSync.Definition.Resources
import MonitorSync.Json.Printer
import MonitorSync.Operator.Options
set_option autoImplicit false

/-!
# The command line

Reads the options, and prints the definitions of the operator's resources as documents that a
cluster can be given.

## Main definitions

* `usage` — how the options are given
* `definitionDocuments` — the definitions of all resources
* `main` — the program
-/

namespace MonitorSync

/-- How an option is given. -/
def OptionName.usage (o : OptionName) : String :=
  "  --" ++ o.long ++ (if o.isFlag then "" else " <VALUE>") ++ "  [env: " ++ o.envName ++ "]"

/-- How the options are given. -/
def usage : String :=
  String.intercalate "\n" <|
    ["Keep Centreon services in sync with Kubernetes resources", "", "Options:"] ++
    OptionName.all.map OptionName.usage ++
    ["  -h, --help", "  -V, --version"]

/-- What is told about a command line that is not accepted. -/
def UsageError.message : UsageError → String
  | .invalidValue => "error: a value is missing, or is not one of those that are possible"
  | .notANumber => "error: a value is not a number of 64 bits"
  | .unknownArgument => "error: unexpected argument"
  | .repeated => "error: an option cannot be used twice"
  | .unneededValue => "error: a flag takes no value"
  | .help => usage
  | .version => "monitoring-operator"

/-- Whether what is told was asked for. -/
def UsageError.isAskedFor (e : UsageError) : Bool := e = .help || e = .version

/-- The definitions of all resources, each a document of its own. -/
def definitionDocuments : List String :=
  ResourceKind.all.flatMap fun k => ["---", k.definition.compact]

end MonitorSync

open MonitorSync in
/-- Prints the definitions. A command line that is not accepted ends with the exit code 2. -/
def main (arguments : List String) : IO UInt32 := do
  let given ← OptionName.all.filterMapM fun o => do
    return (← IO.getEnv o.envName).map (o.envName, ·)
  match Options.read arguments (KeyMap.ofList given) with
  | .ok _ =>
    definitionDocuments.forM IO.println
    return 0
  | .error e =>
    if e.isAskedFor then
      IO.println e.message
      return 0
    IO.eprintln e.message
    return 2
