import TenantOverlay.Config.Basic
import TenantOverlay.Text.Split

/-!
# Arguments of the command line

`Invocation.ofArguments` reads what a caller asks for. Arguments are read from left to right and the
first that asks for help, or that cannot be understood, decides.
-/

namespace TenantOverlay

/-- What replaces the values of the merged configuration. -/
structure DaemonOptions where
  configPath : Option String := none
  endpoints : List String := []
  labelSelector : Option String := none
  metricsPort : Option Nat := none
  logLevel : Option String := none
  deriving DecidableEq, Repr

/-- A configuration in which each option that is given replaces its field. -/
def DaemonOptions.apply (o : DaemonOptions) (c : OperatorConfig) : OperatorConfig where
  store := if o.endpoints.isEmpty then c.store else { c.store with endpoints := o.endpoints }
  controller := { c.controller with
    labelSelector := o.labelSelector.getD c.controller.labelSelector }
  retry := c.retry
  metrics := { c.metrics with port := o.metricsPort.getD c.metrics.port }
  logLevel := o.logLevel.getD c.logLevel

inductive Command where
  | daemon (options : DaemonOptions)
  /-- Prints the definition of the overlay resource. -/
  | definition
  /-- Prints the version bundles. -/
  | bundles
  deriving DecidableEq, Repr

/-- The commands that have help of their own. -/
inductive Topic where
  | program
  | daemon
  | definition
  | bundles
  | help
  deriving DecidableEq, Repr

/-- What a caller asks for. -/
inductive Invocation where
  | run (command : Command)
  | help (topic : Topic)
  | version
  | misuse
  deriving DecidableEq, Repr

/-- How an argument is written. -/
inductive Argument where
  /-- Two dashes: no options follow. -/
  | separator
  | long (name : String) (value : Option String)
  /-- One or more one-letter options. -/
  | short (first : Char)
  | value (text : String)
  deriving DecidableEq, Repr

namespace Argument

def ofText (s : String) : Argument :=
  match s.toList with
  | ['-', '-'] => separator
  | '-' :: '-' :: r =>
    match Text.cut '=' r with
    | some (name, given) => long (String.ofList name) (some (String.ofList given))
    | none => long (String.ofList r) none
  | '-' :: c :: _ => short c
  | _ => value s

end Argument

namespace DaemonOptions

/-- A port: a whole number, with or without a sign, that is in the range of ports. -/
def port? (s : String) : Option Nat :=
  match Text.signed? Text.int64Bound s.toList with
  | some (.ofNat n) => if n ≤ maxPort then some n else none
  | _ => none

/-- Whether there is an option of a name. -/
def isName (name : String) : Bool :=
  ["config", "etcd-endpoints", "label-selector", "metrics-port", "log-level"].contains name

/-- Sets an option. All but the endpoints, which add up, can be given only once. -/
def set? (o : DaemonOptions) (name value : String) : Option DaemonOptions :=
  match name with
  | "config" =>
    if o.configPath.isSome ∨ value = "" then none else some { o with configPath := some value }
  | "etcd-endpoints" =>
    let added := (Text.splitOn ',' value.toList).map String.ofList
    some { o with endpoints := o.endpoints ++ added }
  | "label-selector" =>
    if o.labelSelector.isSome then none else some { o with labelSelector := some value }
  | "metrics-port" =>
    if o.metricsPort.isSome then none
    else (port? value).map fun p => { o with metricsPort := some p }
  | "log-level" => if o.logLevel.isSome then none else some { o with logLevel := some value }
  | _ => none

/-- The variable that names the configuration file when no option does. -/
def configVariable : String := "FLANNEL_OPERATOR_CONFIG"

/-- The options once all arguments are read. -/
def finish (environment : List (String × String)) (o : DaemonOptions) : Invocation :=
  match o.configPath, (environment.find? fun v => v.1 == configVariable).map (·.2) with
  | none, some "" => .misuse
  | none, some path => .run (.daemon { o with configPath := some path })
  | _, _ => .run (.daemon o)

/-- Reads the arguments of the daemon. -/
def read (environment : List (String × String)) (o : DaemonOptions) : List String → Invocation
  | [] => o.finish environment
  | [a] =>
    match Argument.ofText a with
    | .separator => o.finish environment
    | .long "help" none | .short 'h' => .help .daemon
    | .long name (some value) =>
      match o.set? name value with
      | some o => o.finish environment
      | none => .misuse
    | _ => .misuse
  | a :: b :: rest =>
    match Argument.ofText a with
    | .long "help" none | .short 'h' => .help .daemon
    | .long name (some value) =>
      match o.set? name value with
      | some o => read environment o (b :: rest)
      | none => .misuse
    | .long name none =>
      match Argument.ofText b with
      | .value value =>
        match o.set? name value with
        | some o => read environment o rest
        | none => .misuse
      | _ => .misuse
    | _ => .misuse

end DaemonOptions

namespace Invocation

/-- A command that has no options of its own. -/
def simple (command : Command) (topic : Topic) : List String → Invocation
  | [] => .run command
  | a :: rest =>
    match Argument.ofText a with
    | .separator => if rest.isEmpty then .run command else .misuse
    | .long "help" none | .short 'h' => .help topic
    | _ => .misuse

/-- The help that is asked for by name. -/
def helpOn : List String → Invocation
  | [] => .help .program
  | ["daemon"] => .help .daemon
  | ["crd"] => .help .definition
  | ["version"] => .help .bundles
  | ["help"] => .help .help
  | _ => .misuse

/-- Reads the arguments of the program. -/
def ofArguments (environment : List (String × String)) : List String → Invocation
  | [] => .misuse
  | "daemon" :: rest => DaemonOptions.read environment {} rest
  | "crd" :: rest => simple .definition .definition rest
  | "version" :: rest => simple .bundles .bundles rest
  | "help" :: rest => helpOn rest
  | a :: _ =>
    match Argument.ofText a with
    | .long "help" none | .short 'h' => .help .program
    | .long "version" none | .short 'V' => .version
    | _ => .misuse

end Invocation

end TenantOverlay
