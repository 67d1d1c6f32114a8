/-
This file holds the configuration of the operator: which namespace it watches, how it logs, where
it serves its metrics, how often it looks at a gateway that has converged, and who owns the number
of replicas. Every setting has a flag on the command line and a variable in the environment.
-/

import GatewayOperator.Fields.Table
import GatewayOperator.Network.SocketAddress
import GatewayOperator.Text.Blank

namespace GatewayOperator

/-- The form of the log. -/
inductive LogFormat where
  /-- Lines for a reader. -/
  | text
  /-- One JSON document per event. -/
  | json
  deriving DecidableEq

/-- The configuration of the operator. -/
structure Config where
  watchNamespace : Option String
  logFormat : LogFormat
  metricsAddress : SocketAddress
  resyncSeconds : Nat
  replicaPolicy : ReplicaPolicy
  deriving DecidableEq

/-- The namespace to watch. A name of white space alone stands for all namespaces, so that a
variable can be set to nothing. -/
def Config.namespaceName? (config : Config) : Option String :=
  match config.watchNamespace with
  | none => none
  | some name =>
    match Text.trim name.toList with
    | [] => none
    | trimmed => some (String.ofList trimmed)

/-! ### Settings -/

/-- What can be set. -/
inductive Setting where
  | watchNamespace
  | logFormat
  | metricsAddress
  | resyncSeconds
  | replicaPolicy
  deriving DecidableEq

namespace Setting

/-- All settings, in the order in which the environment is looked at. -/
def all : List Setting :=
  [watchNamespace, logFormat, metricsAddress, resyncSeconds, replicaPolicy]

/-- The name of the flag, without the dashes. -/
def flag : Setting → String
  | watchNamespace => "watch-namespace"
  | logFormat => "log-format"
  | metricsAddress => "metrics-bind-address"
  | resyncSeconds => "resync-interval-secs"
  | replicaPolicy => "replica-policy"

/-- The name of the variable in the environment. -/
def environmentName : Setting → String
  | watchNamespace => "WATCH_NAMESPACE"
  | logFormat => "RUST_LOG_FORMAT"
  | metricsAddress => "METRICS_BIND_ADDRESS"
  | resyncSeconds => "RESYNC_INTERVAL_SECS"
  | replicaPolicy => "REPLICA_POLICY"

end Setting

/-- Why a command line gives no configuration. Asking for help or for the version counts, since
nothing is run then. -/
inductive ConfigError where
  /-- A value is missing or is none of the words of its setting. -/
  | invalidValue
  /-- A value cannot be read. -/
  | malformedValue
  | unknownArgument
  /-- A setting is given twice. -/
  | repeatedSetting
  /-- A value for a flag that takes none. -/
  | unexpectedValue
  | help
  | version
  deriving DecidableEq

/-- The exit code of the program. -/
def ConfigError.exitCode : ConfigError → Nat
  | help | version => 0
  | _ => 2

/-! ### Values -/

/-- The form of the log that a word names. -/
def LogFormat.ofWord? : String → Option LogFormat
  | "text" => some text
  | "json" => some json
  | _ => none

/-- The word for a form of the log. -/
def LogFormat.word : LogFormat → String
  | text => "text"
  | json => "json"

/-- The policy that a word names. -/
def ReplicaPolicy.ofWord? : String → Option ReplicaPolicy
  | "enforce" => some enforce
  | "preserve" => some preserve
  | _ => none

/-- The word for a policy. -/
def ReplicaPolicy.word : ReplicaPolicy → String
  | enforce => "enforce"
  | preserve => "preserve"

/-- A number of seconds below `2 ^ 64`, with or without a plus sign. -/
def seconds? (text : String) : Option Nat :=
  match text.toList with
  | '+' :: digits => SocketAddress.boundedNumber? UInt64.size digits
  | digits => SocketAddress.boundedNumber? UInt64.size digits

/-- The settings that were given. -/
structure Settings where
  watchNamespace : Option String := none
  logFormat : Option LogFormat := none
  metricsAddress : Option SocketAddress := none
  resyncSeconds : Option Nat := none
  replicaPolicy : Option ReplicaPolicy := none

namespace Settings

/-- Whether a setting was given. -/
def has (settings : Settings) : Setting → Bool
  | .watchNamespace => settings.watchNamespace.isSome
  | .logFormat => settings.logFormat.isSome
  | .metricsAddress => settings.metricsAddress.isSome
  | .resyncSeconds => settings.resyncSeconds.isSome
  | .replicaPolicy => settings.replicaPolicy.isSome

/-- Gives a setting the value of a text. -/
def assign (settings : Settings) (setting : Setting) (text : String) :
    Except ConfigError Settings :=
  match setting with
  | .watchNamespace => .ok { settings with watchNamespace := some text }
  | .logFormat =>
    match LogFormat.ofWord? text with
    | some logFormat => .ok { settings with logFormat := some logFormat }
    | none => .error .invalidValue
  | .metricsAddress =>
    match SocketAddress.read? text with
    | some address => .ok { settings with metricsAddress := some address }
    | none => .error .malformedValue
  | .resyncSeconds =>
    match seconds? text with
    | some seconds => .ok { settings with resyncSeconds := some seconds }
    | none => .error .malformedValue
  | .replicaPolicy =>
    match ReplicaPolicy.ofWord? text with
    | some policy => .ok { settings with replicaPolicy := some policy }
    | none => .error .invalidValue

/-- The configuration that settings make, with the defaults for those that were not given. -/
def config (settings : Settings) : Config where
  watchNamespace := settings.watchNamespace
  logFormat := settings.logFormat.getD .text
  metricsAddress := settings.metricsAddress.getD ⟨.v4 [0, 0, 0, 0], 8383⟩
  resyncSeconds := settings.resyncSeconds.getD 300
  replicaPolicy := settings.replicaPolicy.getD .enforce

end Settings

end GatewayOperator
