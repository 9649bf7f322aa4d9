import Overlay.CommandLine.Options
import Overlay.Environment
import Overlay.Loading

namespace Overlay

namespace Baseline

/-- Sets arguments written `KEY=VALUE` one after the other; their values are
typed as scalars. -/
def setAssignments (arguments : Arguments) : List String → Run Arguments
  | [] => pure arguments
  | text :: rest =>
    match Assignment.parse? text with
    | none => Run.fail (.invalidAssignment text)
    | some assignment =>
      setAssignments (arguments.insert assignment.key (Conversion.scalar assignment.value)) rest

/-- The arguments to merge over: those of the defaults file, then the single
ones. -/
def build (files : Files) (env : Environment) (options : Options) : Run Arguments := do
  let defaults ← match options.defaults with
    | some path => readArguments files env path
    | none => pure []
  setAssignments defaults options.assignments

end Baseline

structure Loaded where
  baseline : Arguments
  merged : Arguments

namespace Loaded

/-- The keys whose merged value differs from that of the baseline. -/
def overridden (loaded : Loaded) : List String :=
  (loaded.merged.filter fun (key, value) => !(loaded.baseline.get? key).any (·.equal value)).map Prod.fst

end Loaded

/-- The baseline and what comes of the configuration over it, both read with the
same variables. -/
def Options.loadIn (options : Options) (files : Files) (env : Environment) : Run Loaded := do
  let baseline ← Baseline.build files env options
  let merged ← Overlay.load files env options.config baseline options.ignoreUnknown
  return ⟨baseline, merged⟩

def Options.load (options : Options) (files : Files) (process : Environment) : Course Loaded :=
  (LayeredEnvironment.load files process options.envFile options.envAssignments).andThen fun layers =>
    options.loadIn files layers.get?

/-- The notices that tell the options. Of the variables only the names are told.
-/
def Options.notices (options : Options) : List Notice :=
  let list (title : String) (entries : List String) :=
    if entries = [] then [] else Notice.option title :: entries.map fun entry => Notice.option ("  - " ++ entry)
  let name (text : String) := match Text.splitAtFirst '=' text.toList with
    | some (name, _) => String.ofList name
    | none => text
  [.option ("Config File: " ++ options.config),
    .option ("Defaults File: " ++ options.defaults.getD "(none)"),
    .option ("Environment File: " ++ options.envFile),
    .option ("Ignore Unknown: " ++ (if options.ignoreUnknown then "true" else "false"))] ++
    list "Argument Overrides:" options.assignments ++
    list "Environment Overrides:" (options.envAssignments.map name)

end Overlay
