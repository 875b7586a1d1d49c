import TenantOverlay.Bundle
import TenantOverlay.Cluster.Access
import TenantOverlay.CommandLine.Arguments
import TenantOverlay.CommandLine.Help
import TenantOverlay.CommandLine.LogFilter
import TenantOverlay.Config.Load
import TenantOverlay.Json.Printer
import TenantOverlay.Operator.Lifecycle
import TenantOverlay.Overlay.Definition
import TenantOverlay.Yaml.Printer

/-!
# Running the program

`Surroundings.run` carries out what a caller asks for. Most of it comes to an end at once; the daemon
serves until it is told to end, with `Daemon.finish`.
-/

namespace TenantOverlay

/-- What a program finds outside itself: files by their paths, the variables of the environment, and
whether the address for metrics is free. -/
structure Surroundings where
  files : String → Option String
  environment : List (String × String)
  isAddressFree : Bool := true

/-- An operator that serves, and what it has said so far. -/
structure Daemon.Running where
  operator : Operator
  notices : List Notice
  /-- Whether its notices are shown. -/
  isShown : Bool

/-- What comes of running the program. -/
inductive Run where
  /-- It ended with an exit code, output and an error. -/
  | ended (exitCode : Nat) (output : String) (error : Option String)
  | serving (daemon : Daemon.Running)

namespace Run

/-- The exit code of a failure. -/
def failureCode : Nat := 1

/-- The exit code of arguments that cannot be understood. -/
def misuseCode : Nat := 2

def failed (e : OperatorError) : Run := ended failureCode "" (some ("Error: " ++ e.message))

end Run

namespace Surroundings

def valueOf? (s : Surroundings) (name : String) : Option String :=
  ClusterAccess.valueOf? s.environment name

/-- The configuration of the daemon: the loaded one, which has to be valid by itself, with the
options over it. -/
def configure (s : Surroundings) (o : DaemonOptions) : Except StartError OperatorConfig := do
  let loaded ← OperatorConfig.load s.files s.environment o.configPath
  let config := o.apply loaded
  config.validate
  return config

/-- Starts the daemon. -/
def serve (s : Surroundings) (o : DaemonOptions) : Except OperatorError Daemon.Running := do
  let config ← (s.configure o).mapError OperatorError.start
  let access := ClusterAccess.isConfigured s.files s.environment
  let (operator, made) ← (Operator.build config access s.files).mapError OperatorError.start
  let started := operator.start s.isAddressFree
  started.result
  return {
    operator := started.state
    notices := .operatorStarting :: made ++ started.notices
    isShown := LogFilter.shows config.logLevel }

/-- The files that have to be at hand for what is asked, as far as they are known: the ones that a
configuration names are known once it can be read. -/
def paths (s : Surroundings) : Invocation → List String
  | .run (.daemon o) =>
    let secured := match s.configure o with
      | .ok c => c.store.tls.toList.flatMap fun t =>
        t.authorityFile.toList ++ [t.certificateFile, t.keyFile]
      | .error _ => []
    o.configPath.toList ++ ClusterAccess.paths s.environment ++ secured
  | _ => []

/-- Carries out what is asked for. -/
def run (s : Surroundings) : Invocation → Run
  | .misuse => .ended Run.misuseCode "" none
  | .version => .ended 0 Help.version none
  | .help topic => .ended 0 (Help.text topic (s.valueOf? DaemonOptions.configVariable)) none
  | .run .bundles => .ended 0 (Json.pretty (.arr (Bundle.shipped.map Bundle.toJson)) ++ "\n") none
  | .run .definition => .ended 0 (Yaml.write Overlay.definition ++ "\n") none
  | .run (.daemon o) =>
    match s.serve o with
    | .ok d => .serving d
    | .error e => Run.failed e

end Surroundings

/-- The end of a daemon that is told to stop, and all that it has said. -/
def Daemon.Running.finish (d : Daemon.Running) : Nat × List Notice :=
  let stopped := d.operator.stop .exit
  let exitCode := match stopped.result with
    | .ok () => 0
    | .error _ => Run.failureCode
  (exitCode, if d.isShown then d.notices ++ stopped.notices else [])

end TenantOverlay
