import Overlay.CommandLine.Switch
import Overlay.Run

namespace Overlay

structure Options where
  config : String
  defaults : Option String
  assignments : List String
  envFile : String
  envAssignments : List String
  ignoreUnknown : Bool
  deriving Repr

inductive Format where
  | yaml
  | json
  deriving DecidableEq, Repr

/-- Prints the merged arguments, or reports on them. -/
inductive Command where
  | merge (format : Format)
  | check
  deriving Repr

/-- A command with its options and the wanted level of notices, spelled as on
the command line. -/
structure Invocation where
  command : Command
  options : Options
  level : String
  deriving Repr

namespace CommandLine

def defaultEnvFile : String := ".env"

def defaultLevel : String := "info"

def levelNames : List (String × Level) :=
  [("trace", .trace), ("debug", .debug), ("info", .info), ("warn", .warn), ("error", .error)]

def level? (text : String) : Option Level :=
  levelNames.lookup (String.ofList (text.toList.map Char.toLower))

def formatNames : List (String × Format) := [("yaml", .yaml), ("json", .json)]

def helpSwitch : Switch := { name := "help", letter := some 'h', arity := .stop .helpWanted }

def versionSwitch : Switch := { name := "version", letter := some 'V', arity := .stop .versionWanted }

def levelSwitch : Switch :=
  { name := "log-level", letter := none, arity := .once, accepts := fun text => (level? text).isSome }

def commonSwitches : List Switch :=
  [{ name := "defaults", letter := some 'd', arity := .once },
    { name := "arg", letter := some 'a', arity := .often },
    { name := "ignore-unknown", letter := none, arity := .alone },
    { name := "env-file", letter := none, arity := .once },
    { name := "env", letter := some 'e', arity := .often },
    helpSwitch]

def formatSwitch : Switch :=
  { name := "format", letter := some 'f', arity := .once, accepts := fun text => (formatNames.lookup text).isSome }

/-- The commands by name, with the switches of their own. -/
def commandSwitches : String → Option (List Switch)
  | "merge" => some (formatSwitch :: commonSwitches)
  | "check" => some commonSwitches
  | _ => none

def optionsOf (progress : Progress) (config : String) : Options where
  config := config
  defaults := progress.value? "defaults"
  assignments := progress.values "arg"
  envFile := (progress.value? "env-file").getD defaultEnvFile
  envAssignments := progress.values "env"
  ignoreUnknown := (progress.value? "ignore-unknown").isSome

def commandOf (name : String) (progress : Progress) : Command :=
  if name = "check" then .check
  else .merge (((progress.value? "format").bind fun text => formatNames.lookup text).getD .yaml)

/-- Reads what follows the name of a command; `more` switches are known besides
its own. -/
def readCommand (more : List Switch) (name : String) (words : List String) :
    Except UsageFault (Command × Options × Progress) :=
  match commandSwitches name with
  | none => .error .unknownCommand
  | some switches => do
    let (progress, _) ← readWords (switches ++ more) 1 [] .start words
    let progress ← progress.settle
    match progress.words with
    | [] => throw .missingArgument
    | config :: _ => return (commandOf name progress, optionsOf progress config, progress)

def commandNames : List String := ["merge", "check", "help"]

def helpFault : List String → UsageFault
  | [] => .helpWanted
  | [name] => if commandNames.contains name then .helpWanted else .unknownCommand
  | _ => .unknownCommand

/-- Reads a whole command line. The level may be given before or behind the name
of the command, where it counts more. -/
def readInvocation (words : List String) : Except UsageFault Invocation := do
  let switches := [levelSwitch, helpSwitch, versionSwitch]
  let (outer, command?) ← readWords switches 0 commandNames .start words
  match command? with
  | none => do
    let _ ← outer.settle
    throw .missingCommand
  | some (name, rest) => do
    if name = "help" then throw (helpFault rest)
    let (command, options, inner) ← readCommand [levelSwitch] name rest
    let outer ← outer.settle
    let level := (inner.value? "log-level").getD ((outer.value? "log-level").getD defaultLevel)
    return ⟨command, options, level⟩

end CommandLine

/-- The level whose notices are still shown. -/
def Invocation.shownLevel (invocation : Invocation) : Level :=
  (CommandLine.level? invocation.level).getD .info

end Overlay
