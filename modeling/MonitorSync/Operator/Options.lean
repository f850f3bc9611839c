import MonitorSync.Decimal.Power
import MonitorSync.Domain
import MonitorSync.KeyMap
set_option autoImplicit false

/-!
# Options of the operator

Options are given on the command line or in the environment, where the command line wins.

## Main definitions

* `Options` — what can be chosen
* `UsageError` — why a command line is not accepted, or what it asks for instead of running
* `Options.read` — the options of a command line and an environment
-/

namespace MonitorSync

/-- What can be chosen. -/
structure Options where
  annotationDomain : String := Domain.default.name
  /-- The delay between two successful passes over the same object. -/
  requeueSeconds : Nat := 3600
  logJson : Bool := false
  enableRoute : Bool := false
  /-- The timeout of requests to platforms, in seconds. -/
  requestTimeout : Nat := 30
deriving DecidableEq, Repr, Inhabited

/-- The domain of annotations and labels. -/
def Options.domain (o : Options) : Domain := ⟨o.annotationDomain⟩

/-- Why a command line is not accepted, or what it asks for instead of running. -/
inductive UsageError where
  /-- A value is missing, or is not one of a few. -/
  | invalidValue
  /-- A value is not a number. -/
  | notANumber
  | unknownArgument
  /-- An option is given twice. -/
  | repeated
  /-- A flag is given a value. -/
  | unneededValue
  | help
  | version
deriving DecidableEq, Repr

/-- The name of one option. -/
inductive OptionName where
  | annotationDomain
  | requeueSeconds
  | logJson
  | enableRoute
  | requestTimeout
deriving DecidableEq, Repr

namespace OptionName

/-- All names. -/
def all : List OptionName :=
  [annotationDomain, requeueSeconds, logJson, enableRoute, requestTimeout]

/-- The name on the command line, without the dashes. -/
def long : OptionName → String
  | annotationDomain => "annotation-domain"
  | requeueSeconds => "requeue-seconds"
  | logJson => "log-json"
  | enableRoute => "enable-route"
  | requestTimeout => "request-timeout"

/-- The name in the environment. -/
def envName : OptionName → String
  | annotationDomain => "MONITOR_DOMAIN"
  | requeueSeconds => "REQUEUE_SECONDS"
  | logJson => "LOG_JSON"
  | enableRoute => "ENABLE_ROUTE"
  | requestTimeout => "REQUEST_TIMEOUT"

/-- Whether the option is a flag. -/
def isFlag : OptionName → Bool
  | logJson | enableRoute => true
  | _ => false

end OptionName

namespace Options

/-- The number that digits after an optional plus sign write, if 64 bits hold it. -/
def readNumber (s : String) : Except UsageError Nat :=
  let cs := s.toList
  let digits := match cs with
    | '+' :: rest => rest
    | cs => cs
  let n := digits.foldl (fun n c => 10 * n + (c.toNat - 48)) 0
  if digits.isEmpty || !digits.all Char.isDigit || twoPow 64 ≤ n then .error .notANumber else .ok n

/-- The flag that a word writes. -/
def readFlag (s : String) : Except UsageError Bool :=
  if s = "true" then .ok true else if s = "false" then .ok false else .error .invalidValue

/-- Sets an option to the value that a text writes. -/
def assign (o : Options) (value : String) : OptionName → Except UsageError Options
  | .annotationDomain => .ok { o with annotationDomain := value }
  | .requeueSeconds => do return { o with requeueSeconds := ← readNumber value }
  | .logJson => do return { o with logJson := ← readFlag value }
  | .enableRoute => do return { o with enableRoute := ← readFlag value }
  | .requestTimeout => do return { o with requestTimeout := ← readNumber value }

end Options

/-- What has been read of a command line. -/
structure CommandLine where
  options : Options := {}
  /-- The options that are set. -/
  given : List OptionName := []
  /-- An option that is not set yet, with its value as far as it has been read. -/
  pending : Option (OptionName × Option String) := none
  /-- Whether only arguments without a name may follow. -/
  trailing : Bool := false

namespace CommandLine

/-- Sets an option, which must not be set yet. -/
def accept (l : CommandLine) (name : OptionName) (value : String) :
    Except UsageError CommandLine := do
  if l.given.contains name then throw .repeated
  return { l with options := ← l.options.assign value name, given := name :: l.given }

/-- Sets the option that is not set yet, which needs a value. -/
def settle (l : CommandLine) : Except UsageError CommandLine :=
  match l.pending with
  | none => .ok l
  | some (_, none) => .error .invalidValue
  | some (name, some value) => { l with pending := none }.accept name value

/-- Stops with what is asked for instead of running. -/
def stop (l : CommandLine) (e : UsageError) : Except UsageError CommandLine := do
  let _ ← l.settle
  throw e

/-- Reads an argument with two dashes. -/
def readLong (l : CommandLine) (name : String) (value : Option String) :
    Except UsageError CommandLine :=
  if name = "help" then (if value.isSome then .error .unneededValue else l.stop .help)
  else if name = "version" then (if value.isSome then .error .unneededValue else l.stop .version)
  else match OptionName.all.find? fun n => n.long = name with
    | none => .error .unknownArgument
    | some n =>
      if n.isFlag then
        if value.isSome then .error .unneededValue
        else do (← l.settle).accept n "true"
      else do
        let l ← l.settle
        match value with
        | some v => l.accept n v
        | none => return { l with pending := some (n, none) }

/-- Reads an argument with one dash. -/
def readShort (l : CommandLine) (letter : Char) : Except UsageError CommandLine :=
  if letter = 'h' then l.stop .help
  else if letter = 'V' then l.stop .version
  else .error .unknownArgument

/-- Reads an argument without a dash, which is the value of the option before it. -/
def readValue (l : CommandLine) (value : String) : Except UsageError CommandLine :=
  match l.pending with
  | some (name, none) => .ok { l with pending := some (name, some value) }
  | _ => .error .unknownArgument

/-- Reads an argument. -/
def readArgument (l : CommandLine) (argument : String) : Except UsageError CommandLine :=
  if l.trailing then .error .unknownArgument
  else match argument.toList with
    | ['-', '-'] => .ok { l with trailing := true }
    | '-' :: '-' :: rest =>
      let name := String.ofList (rest.takeWhile (· ≠ '='))
      let value := match rest.dropWhile (· ≠ '=') with
        | [] => none
        | _ :: v => some (String.ofList v)
      l.readLong name value
    | '-' :: letter :: _ => l.readShort letter
    | _ => l.readValue argument

/-- Sets an option from the environment, unless it is set. -/
def readVariable (values : KeyMap String) (l : CommandLine) (name : OptionName) :
    Except UsageError CommandLine :=
  if l.given.contains name then .ok l
  else match values.get? name.envName with
    | none => .ok l
    | some value => l.accept name value

end CommandLine

/-- The options of a command line and an environment. -/
def Options.read (arguments : List String) (values : KeyMap String) :
    Except UsageError Options := do
  let l ← arguments.foldlM CommandLine.readArgument {}
  let l ← l.settle
  let l ← OptionName.all.foldlM (CommandLine.readVariable values) l
  return l.options

end MonitorSync
