/-
This file reads the configuration from the command line and the environment. A setting is given
as a flag with its value behind an equals sign or in the next argument; one that is not on the
command line is taken from the environment, and its default stands for the rest. The first fault
decides the error, and an argument that is not known is a fault before the value in front of it
is looked at.
-/

import GatewayOperator.Config.Basic

namespace GatewayOperator

open GatewayOperator.Text

/-- What an argument is by its looks. -/
inductive Argument where
  /-- Two dashes: no flag follows. -/
  | terminator
  /-- The flag of a setting, and the value behind its equals sign. -/
  | setting (setting : Setting) (value : Option String)
  | help
  | version
  /-- A flag that takes no value, with a value. -/
  | valueUnexpected
  /-- A flag that does not exist. -/
  | unknown
  /-- Not a flag. -/
  | plain (text : String)
  deriving DecidableEq

/-- The argument that a long flag makes, with the value behind its equals sign. -/
def Argument.ofFlag (name : String) (value : Option String) : Argument :=
  if name = "help" then if value.isSome then valueUnexpected else help
  else if name = "version" then if value.isSome then valueUnexpected else version
  else
    match Setting.all.find? (·.flag = name) with
    | some known => setting known value
    | none => unknown

/-- The name and the value of a long flag: it is cut at the first equals sign. -/
def cutFlag (text : List Char) : String × Option String :=
  let name := String.ofList (text.takeWhile (· != '='))
  match text.dropWhile (· != '=') with
  | [] => (name, none)
  | _ :: value => (name, some (String.ofList value))

/-- What an argument is. Of several short flags behind one dash the first decides. -/
def Argument.ofText (text : String) : Argument :=
  match text.toList with
  | ['-', '-'] => terminator
  | '-' :: '-' :: flag => let (name, value) := cutFlag flag; ofFlag name value
  | '-' :: 'h' :: _ => help
  | '-' :: 'V' :: _ => version
  | '-' :: _ :: _ => unknown
  | _ => plain text

/-- A flag that was met without an equals sign, and the value found for it since. -/
structure Pending where
  setting : Setting
  value : Option String

/-- Gives a setting its value. A setting is given once. -/
def Settings.give (settings : Settings) (setting : Setting) (value : String) :
    Except ConfigError Settings :=
  if settings.has setting then .error .repeatedSetting else settings.assign setting value

/-- Gives the pending setting its value. -/
def Settings.settle (settings : Settings) : Option Pending → Except ConfigError Settings
  | none => .ok settings
  | some ⟨_, none⟩ => .error .invalidValue
  | some ⟨setting, some value⟩ => settings.give setting value

/-- Reads the arguments behind those that gave the settings so far. -/
def readArguments (settings : Settings) (pending : Option Pending) :
    List String → Except ConfigError Settings
  | [] => settings.settle pending
  | argument :: rest =>
    match Argument.ofText argument with
    | .terminator => if rest.isEmpty then settings.settle pending else .error .unknownArgument
    | .unknown => .error .unknownArgument
    | .valueUnexpected => .error .unexpectedValue
    | .help => do
      let _ ← settings.settle pending
      throw .help
    | .version => do
      let _ ← settings.settle pending
      throw .version
    | .setting setting none => do
      let settled ← settings.settle pending
      readArguments settled (some ⟨setting, none⟩) rest
    | .setting setting (some value) => do
      let settled ← settings.settle pending
      let given ← settled.give setting value
      readArguments given none rest
    | .plain text =>
      match pending with
      | some ⟨setting, none⟩ => readArguments settings (some ⟨setting, some text⟩) rest
      | _ => .error .unknownArgument

/-- The variables of the environment. -/
abbrev Environment : Type := List (String × String)

/-- The value of a variable. -/
def Environment.value? (environment : Environment) (name : String) : Option String :=
  (environment.find? (·.1 = name)).map Prod.snd

/-- Takes the settings that were not given from the environment. -/
def readEnvironment (environment : Environment) (settings : Settings) :
    List Setting → Except ConfigError Settings
  | [] => .ok settings
  | setting :: rest =>
    if settings.has setting then readEnvironment environment settings rest
    else
      match environment.value? setting.environmentName with
      | none => readEnvironment environment settings rest
      | some value => do
        let assigned ← settings.assign setting value
        readEnvironment environment assigned rest

/-- The configuration that a command line and an environment give. -/
def Config.read (arguments : List String) (environment : Environment) :
    Except ConfigError Config := do
  let given ← readArguments {} none arguments
  let complete ← readEnvironment environment given Setting.all
  return complete.config

end GatewayOperator
