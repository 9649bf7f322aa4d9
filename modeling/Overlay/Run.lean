import Overlay.Failure

namespace Overlay

inductive Level where
  | error
  | warn
  | info
  | debug
  | trace
  deriving DecidableEq, Repr

namespace Level

/-- Greater for levels that let more notices through. -/
def rank : Level → Nat
  | .error => 1
  | .warn => 2
  | .info => 3
  | .debug => 4
  | .trace => 5

def name : Level → String
  | .error => "ERROR"
  | .warn => "WARN"
  | .info => "INFO"
  | .debug => "DEBUG"
  | .trace => "TRACE"

end Level

inductive Notice where
  | logLevel (level : String)
  | option (text : String)
  | experimental
  | readingFile (path : String)
  | parsed (count : Nat) (origin : String)
  | variableResolved (name : String)
  | argumentTaken (key : String)
  | argumentIgnored (key : String)
  | envFile (path : String)
  | envFileMissing (path : String)
  | envFileLocked (fault : FileFault)
  | envEntry (name : String)
  | envEntrySkipped
  | envOverride (name : String)
  deriving DecidableEq, Repr

namespace Notice

def level : Notice → Level
  | .experimental => .warn
  | _ => .debug

def source : Notice → String
  | .logLevel _ => "yaml_args"
  | .option _ => "yaml_args::utils::display"
  | .experimental | .readingFile _ | .parsed .. => "yaml_args::core::loader"
  | .variableResolved _ => "yaml_args::core::substitution"
  | .argumentTaken _ | .argumentIgnored _ => "yaml_args::core::merge"
  | .envFile _ | .envFileMissing _ | .envFileLocked _ | .envEntry _ | .envEntrySkipped | .envOverride _ =>
    "yaml_args::core::env"

def text : Notice → String
  | .logLevel level => "Logger initialized with level: " ++ level
  | .option text => text
  | .experimental =>
    "Using experimental YAML argument feature, command line arguments will be overwritten."
  | .readingFile path => "Reading YAML arguments from " ++ path
  | .parsed count origin => "Parsed " ++ toString count ++ " top-level arguments from " ++ origin
  | .variableResolved name => "Resolved $\x7b" ++ name ++ "\x7d in YAML value"
  | .argumentTaken key => "Argument [" ++ key ++ "] taken from YAML config"
  | .argumentIgnored key => "Ignoring unknown argument [" ++ key ++ "] in YAML config"
  | .envFile path => "Loading environment variables from: " ++ path
  | .envFileMissing path => "No .env file found at: " ++ path
  | .envFileLocked fault => "Warning: could not load .env file: " ++ fault.message
  | .envEntry name => "  Loaded env var: " ++ name
  | .envEntrySkipped => "  Skipping malformed .env entry"
  | .envOverride name => "  Override env var: " ++ name

end Notice

/-- The outcome of a computation together with the notices it gave, which stay
when it fails. -/
structure Run (α : Type) where
  notices : List Notice
  outcome : Except Failure α

namespace Run

variable {α β : Type}

def give (value : α) : Run α := ⟨[], .ok value⟩

def fail (failure : Failure) : Run α := ⟨[], .error failure⟩

def note (notice : Notice) : Run Unit := ⟨[notice], .ok ()⟩

def ofExcept (outcome : Except Failure α) : Run α := ⟨[], outcome⟩

def andThen (run : Run α) (next : α → Run β) : Run β :=
  match run.outcome with
  | .error failure => ⟨run.notices, .error failure⟩
  | .ok value => ⟨run.notices ++ (next value).notices, (next value).outcome⟩

instance : Monad Run where
  pure := give
  bind := andThen

@[simp] theorem pure_eq (value : α) : (pure value : Run α) = ⟨[], .ok value⟩ := rfl

@[simp] theorem ok_bind (notices : List Notice) (value : α) (next : α → Run β) :
    ((⟨notices, .ok value⟩ : Run α) >>= next) = ⟨notices ++ (next value).notices, (next value).outcome⟩ := rfl

@[simp] theorem error_bind (notices : List Notice) (failure : Failure) (next : α → Run β) :
    ((⟨notices, .error failure⟩ : Run α) >>= next) = ⟨notices, .error failure⟩ := rfl

theorem outcome_bind (run : Run α) (next : α → Run β) :
    (run >>= next).outcome = run.outcome.bind fun value => (next value).outcome := by
  obtain ⟨notices, failure | value⟩ := run <;> rfl

end Run

/-- A computation that may go on for ever: it is a run that ends, or it gives
some notices and then one and the same notice again and again. -/
inductive Course (α : Type) where
  | ends (run : Run α)
  | endless (notices : List Notice) (again : Notice)

namespace Course

variable {α β : Type}

/-- Gives a notice first. -/
def behind (notice : Notice) : Course α → Course α
  | .ends run => .ends do
    Run.note notice
    run
  | .endless notices again => .endless (notice :: notices) again

/-- Goes on with the value; a computation without end never comes to that. -/
def andThen (course : Course α) (next : α → Run β) : Course β :=
  match course with
  | .ends run => .ends (run >>= next)
  | .endless notices again => .endless notices again

/-- How the computation ends, if it does. -/
def outcome? : Course α → Option (Except Failure α)
  | .ends run => some run.outcome
  | .endless .. => none

theorem outcome?_behind (notice : Notice) (course : Course α) : (course.behind notice).outcome? = course.outcome? := by
  cases course with
  | ends run => exact congrArg some (Run.outcome_bind _ _)
  | endless => rfl

theorem outcome?_andThen (course : Course α) (next : α → Run β) :
    (course.andThen next).outcome? = course.outcome?.map fun outcome => outcome.bind fun value =>
      (next value).outcome := by
  cases course with
  | ends run => exact congrArg some (Run.outcome_bind run next)
  | endless => rfl

theorem outcome?_eq_some_iff {course : Course α} {outcome : Except Failure α} :
    course.outcome? = some outcome ↔ ∃ notices, course = .ends ⟨notices, outcome⟩ := by
  cases course with
  | ends run =>
    obtain ⟨notices, result⟩ := run
    simp [outcome?, eq_comm]
  | endless => simp [outcome?]

end Course

end Overlay
