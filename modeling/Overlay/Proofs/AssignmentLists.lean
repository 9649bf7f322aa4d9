import Overlay.Baseline
import Overlay.Proofs.Success

namespace Overlay

namespace Assignment

/-- The first text that is not written `KEY=VALUE`. -/
def firstMalformed? (texts : List String) : Option String := texts.find? fun text => (parse? text).isNone

/-- A computation that carries out one assignment after the other fails for the
first text that is none. -/
theorem outcome_of_steps {α : Type} {set : α → Assignment → α} {run : α → List String → Run α}
    (nil : ∀ start, (run start []).outcome = .ok start)
    (malformed : ∀ start text rest, parse? text = none →
      (run start (text :: rest)).outcome = .error (.invalidAssignment text))
    (next : ∀ start text rest assignment, parse? text = some assignment →
      (run start (text :: rest)).outcome = (run (set start assignment) rest).outcome)
    (start : α) (texts : List String) :
    (run start texts).outcome =
      match firstMalformed? texts with
      | some text => .error (.invalidAssignment text)
      | none => .ok ((texts.filterMap parse?).foldl set start) := by
  induction texts generalizing start with
  | nil => exact nil start
  | cons text rest ih =>
    rw [firstMalformed?, List.find?_cons]
    cases parsed : parse? text with
    | none => exact malformed start text rest parsed
    | some assignment =>
      rw [next start text rest assignment parsed, ih, List.filterMap_cons_some parsed]
      rfl

end Assignment

open Assignment

namespace LayeredEnvironment

def assign (bindings : Entries String) (assignment : Assignment) : Entries String :=
  bindings.insert assignment.key assignment.value

/-- What the entries of a file assign; the others are skipped. -/
def assignments (entries : List EnvFile.Entry) : List Assignment :=
  entries.filterMap fun
    | .set assignment => some assignment
    | _ => none

/-- What a file assigns, if it can be read. -/
def fileAssignments (files : Files) (process : Environment) (path : String) : List Assignment :=
  match files path with
  | .file content => assignments (EnvFile.read process content)
  | _ => []

/-- The assignments of a file and then those of texts `KEY=VALUE`, in front of
the variables of the process. -/
def ofSources (files : Files) (process : Environment) (path : String) (overrides : List String) : LayeredEnvironment :=
  ⟨(fileAssignments files process path ++ overrides.filterMap parse?).foldl assign [], process⟩

/-- The entries of a file never fail: each assignment is made, and the rest is
only noticed. -/
theorem outcome_setFile (bindings : Entries String) (entries : List EnvFile.Entry) :
    (setFile bindings entries).outcome = .ok ((assignments entries).foldl assign bindings) := by
  induction entries generalizing bindings with
  | nil => rfl
  | cons entry rest ih =>
    cases entry with
    | empty => exact ih bindings
    | malformed =>
      rw [setFile, Run.outcome_bind]
      exact ih bindings
    | set assignment =>
      rw [setFile, Run.outcome_bind]
      exact ih (assign bindings assignment)

/-- Overrides fail at the first malformed one and are otherwise all made. -/
theorem outcome_setOverrides (bindings : Entries String) (texts : List String) :
    (setOverrides bindings texts).outcome =
      match firstMalformed? texts with
      | some text => .error (.invalidAssignment text)
      | none => .ok ((texts.filterMap parse?).foldl assign bindings) := by
  refine outcome_of_steps (fun _ => rfl) ?_ ?_ bindings texts
  · intro start text rest parsed
    rw [setOverrides, parsed]
    rfl
  · intro start text rest assignment parsed
    rw [setOverrides, parsed, Run.outcome_bind]
    rfl

/-- A path that can be opened and not read is read for ever. Any other one gives
what a file there assigns. -/
theorem outcome?_readFile (files : Files) (process : Environment) (path : String) :
    (readFile files process path).outcome? =
      if (files path).defiesReading then none
      else some (.ok ((fileAssignments files process path).foldl assign [])) := by
  unfold readFile fileAssignments
  cases files path with
  | file content =>
    rw [Course.outcome?_behind, setAll, Course.outcome?, outcome_setFile]
    rfl
  | _ => rfl

/-- The file never makes the environment fail, and the first text that is no
assignment does, if it is ever reached. -/
theorem outcome?_load (files : Files) (process : Environment) (path : String) (overrides : List String) :
    (load files process path overrides).outcome? =
      if (files path).defiesReading then none
      else
        match firstMalformed? overrides with
        | some text => some (.error (.invalidAssignment text))
        | none => some (.ok (ofSources files process path overrides)) := by
  rw [load, Course.outcome?_andThen, outcome?_readFile]
  cases (files path).defiesReading with
  | true => rfl
  | false =>
    rw [if_neg Bool.false_ne_true, if_neg Bool.false_ne_true, Option.map_some, Except.bind, Run.outcome_bind,
      outcome_setOverrides, ofSources, List.foldl_append]
    cases firstMalformed? overrides <;> rfl

end LayeredEnvironment

namespace Baseline

/-- The arguments with those of texts `KEY=VALUE` set one after the other. -/
def assigned (arguments : Arguments) (texts : List String) : Arguments :=
  (texts.filterMap parse?).foldl
    (fun arguments assignment => arguments.insert assignment.key (Conversion.scalar assignment.value)) arguments

theorem outcome_setAssignments (arguments : Arguments) (texts : List String) :
    (setAssignments arguments texts).outcome =
      match firstMalformed? texts with
      | some text => .error (.invalidAssignment text)
      | none => .ok (assigned arguments texts) := by
  refine outcome_of_steps (fun _ => rfl) ?_ ?_ arguments texts
  · intro start text rest parsed
    rw [setAssignments, parsed]
    rfl
  · intro start text rest assignment parsed
    rw [setAssignments, parsed]

end Baseline

end Overlay
