import Overlay.Baseline
import Overlay.Proofs.MemberInduction

namespace Overlay

open Yaml (Tree)

namespace Run

variable {α β : Type}

/-- No notice of the run is a warning. -/
def Quiet (run : Run α) : Prop := ∀ notice ∈ run.notices, notice.level ≠ .warn

theorem quiet_pure (value : α) : Quiet (pure value : Run α) := List.forall_mem_nil _

theorem quiet_fail (failure : Failure) : Quiet (fail failure : Run α) := List.forall_mem_nil _

theorem quiet_ofExcept (outcome : Except Failure α) : Quiet (ofExcept outcome) := List.forall_mem_nil _

theorem quiet_note {notice : Notice} (noWarning : notice.level ≠ .warn) : Quiet (note notice) :=
  List.forall_mem_singleton.mpr noWarning

/-- The rule for computations in sequence. Since it asks of what follows to be
quiet for all values, nothing has to be known of the value. -/
theorem Quiet.bind {run : Run α} {next : α → Run β} (quiet : run.Quiet) (later : ∀ value, (next value).Quiet) :
    (run >>= next).Quiet := by
  obtain ⟨notices, outcome⟩ := run
  cases outcome with
  | error failure => exact quiet
  | ok value => exact List.forall_mem_append.mpr ⟨quiet, later value⟩

end Run

namespace Course

variable {α β : Type}

/-- No notice is a warning, neither one that comes once nor the one that comes
for ever. -/
def Quiet : Course α → Prop
  | .ends run => run.Quiet
  | .endless notices again => ∀ notice ∈ again :: notices, notice.level ≠ .warn

theorem Quiet.behind {course : Course α} (quiet : course.Quiet) {notice : Notice} (noWarning : notice.level ≠ .warn) :
    (course.behind notice).Quiet := by
  cases course with
  | ends run => exact (Run.quiet_note noWarning).bind fun _ => quiet
  | endless notices again =>
    obtain ⟨last, before⟩ := List.forall_mem_cons.mp quiet
    exact List.forall_mem_cons.mpr ⟨last, List.forall_mem_cons.mpr ⟨noWarning, before⟩⟩

/-- As for a run, except that what follows only has to be quiet for the value
that is come to. A computation without end never comes to one. -/
theorem Quiet.andThen {course : Course α} (quiet : course.Quiet) {next : α → Run β}
    (later : ∀ value, course.outcome? = some (.ok value) → (next value).Quiet) : (course.andThen next).Quiet := by
  cases course with
  | endless => exact quiet
  | ends run =>
    obtain ⟨notices, outcome⟩ := run
    cases outcome with
    | error => exact quiet
    | ok value => exact List.forall_mem_append.mpr ⟨quiet, later value rfl⟩

end Course

open Run

variable (env : Environment)

theorem Placeholder.quiet_expand (pieces : List Piece) : (expand env pieces).Quiet := by
  induction pieces with
  | nil => exact quiet_pure _
  | cons piece rest ih =>
    cases piece with
    | char c => exact ih.bind fun _ => quiet_pure _
    | reference name =>
      rw [expand]
      cases env name with
      | none => exact quiet_fail _
      | some value => exact (quiet_note (by nofun)).bind fun _ => ih.bind fun _ => quiet_pure _

theorem Placeholder.quiet_substitute (text : String) : (substitute env text).Quiet :=
  (quiet_expand env _).bind fun _ => quiet_pure _

namespace Conversion

theorem quiet_keyName (key : Tree) : (keyName env key).Quiet := by
  induction key using Tree.memberInduction with
  | string text => exact Placeholder.quiet_substitute env text
  | tagged _ _ ih => rwa [keyName]
  | sequence _ _ => exact quiet_fail _
  | mapping _ _ => exact quiet_fail _
  | _ => exact quiet_pure _

theorem quiet_values {items : List Tree} (each : ∀ item ∈ items, (value env item).Quiet) :
    (values env items).Quiet := by
  induction items with
  | nil => exact quiet_pure _
  | cons item rest ih =>
    obtain ⟨here, later⟩ := List.forall_mem_cons.mp each
    rw [values]
    exact here.bind fun _ => (ih later).bind fun _ => quiet_pure _

/-- The entries of a mapping are converted one after the other into the
arguments that are there; which those are does not matter. -/
theorem quiet_arguments {entries : List (Tree × Tree)} (each : ∀ entry ∈ entries, (value env entry.2).Quiet)
    (earlier : Arguments) : (arguments env earlier entries).Quiet := by
  induction entries generalizing earlier with
  | nil => exact quiet_pure _
  | cons entry rest ih =>
    obtain ⟨here, later⟩ := List.forall_mem_cons.mp each
    rw [arguments]
    exact (quiet_keyName env _).bind fun _ => here.bind fun _ => ih later _

/-- A conversion tells the variables that it looks up and nothing else. By
induction on the tree, as it may contain others. -/
theorem quiet_value (tree : Tree) : (value env tree).Quiet := by
  induction tree using Tree.memberInduction with
  | integer n =>
    rw [value]
    split
    · exact quiet_pure _
    · exact quiet_fail _
  | string text => exact (Placeholder.quiet_substitute env text).bind fun _ => quiet_pure _
  | sequence items ih =>
    rw [value]
    exact (quiet_values env ih).bind fun _ => quiet_pure _
  | mapping entries ih =>
    rw [value]
    exact (quiet_arguments env (fun entry member => (ih entry member).2) []).bind fun _ => quiet_pure _
  | tagged _ _ ih => rwa [value]
  | _ => exact quiet_pure _

end Conversion

theorem Loading.quiet_ofText (origin text : String) : (ofText env origin text).Quiet := by
  rw [ofText]
  cases tree text with
  | error fault => exact quiet_fail _
  | ok document =>
    refine (Conversion.quiet_value env document).bind fun value => ?_
    cases value with
    | mapping arguments => exact (quiet_note (by nofun)).bind fun _ => quiet_pure _
    | null => exact quiet_pure _
    | _ => exact quiet_fail _

/-- Reading a file gives no warning. So the one of a load cannot come from the
defaults, which are read by the same function. -/
theorem quiet_readArguments (files : Files) (path : String) : (readArguments files env path).Quiet :=
  (quiet_note (by nofun)).bind fun _ => (quiet_ofExcept _).bind fun _ => Loading.quiet_ofText env path _

namespace Merge

theorem quiet_override (file baseline : Arguments) : (override file baseline).Quiet := by
  induction baseline with
  | nil => exact quiet_pure _
  | cons entry rest ih =>
    rw [override]
    split
    · exact ih.bind fun _ => quiet_pure _
    · exact ih.bind fun _ => quiet_pure _
    · split
      · exact (quiet_note (by nofun)).bind fun _ => ih.bind fun _ => quiet_pure _
      · exact quiet_fail _

theorem quiet_checkKnown (baseline : Arguments) (ignoreUnknown : Bool) (file : Arguments) :
    (checkKnown baseline ignoreUnknown file).Quiet := by
  induction file with
  | nil => exact quiet_pure _
  | cons entry rest ih =>
    rw [checkKnown]
    split
    · exact ih
    · split
      · exact (quiet_note (by nofun)).bind fun _ => ih
      · exact quiet_fail _

end Merge

theorem quiet_merge (file baseline : Arguments) (ignoreUnknown : Bool) : (merge file baseline ignoreUnknown).Quiet :=
  (Merge.quiet_override file baseline).bind fun _ =>
    (Merge.quiet_checkKnown baseline ignoreUnknown file).bind fun _ => quiet_pure _

namespace LayeredEnvironment

theorem quiet_setFile (bindings : Entries String) (entries : List EnvFile.Entry) :
    (setFile bindings entries).Quiet := by
  induction entries generalizing bindings with
  | nil => exact quiet_pure _
  | cons entry rest ih =>
    cases entry with
    | empty => exact ih bindings
    | malformed => exact (quiet_note (by nofun)).bind fun _ => ih bindings
    | set assignment => exact (quiet_note (by nofun)).bind fun _ => ih _

theorem quiet_setOverrides (bindings : Entries String) (texts : List String) :
    (setOverrides bindings texts).Quiet := by
  induction texts generalizing bindings with
  | nil => exact quiet_pure _
  | cons text rest ih =>
    rw [setOverrides]
    split
    · exact quiet_fail _
    · exact (quiet_note (by nofun)).bind fun _ => ih _

theorem quiet_readFile (files : Files) (process : Environment) (path : String) :
    (readFile files process path).Quiet := by
  have entries (list : List EnvFile.Entry) : (setAll [] (.entries list)).Quiet := quiet_setFile [] list
  have faults : (setAll [] .faults).Quiet := List.forall_mem_singleton.mpr (by nofun)
  unfold readFile
  split
  · exact (entries _).behind (by nofun)
  · exact faults.behind (by nofun)
  · exact faults.behind (by nofun)
  · exact (quiet_note (by nofun)).bind fun _ => (quiet_note (by nofun)).bind fun _ => quiet_pure _
  all_goals exact (quiet_note (by nofun)).bind fun _ => quiet_pure _

/-- The environment is loaded without a warning, be it with an end or without.
-/
theorem quiet_load (files : Files) (process : Environment) (path : String) (overrides : List String) :
    (load files process path overrides).Quiet :=
  (quiet_readFile files process path).andThen fun fromFile _ =>
    (quiet_setOverrides fromFile overrides).bind fun _ => quiet_pure _

end LayeredEnvironment

namespace Baseline

theorem quiet_setAssignments (arguments : Arguments) (texts : List String) :
    (setAssignments arguments texts).Quiet := by
  induction texts generalizing arguments with
  | nil => exact quiet_pure _
  | cons text rest ih =>
    rw [setAssignments]
    split
    · exact quiet_fail _
    · exact ih _

theorem quiet_build (files : Files) (options : Options) : (build files env options).Quiet := by
  rw [build]
  split
  · exact (quiet_readArguments env files _).bind fun _ => quiet_setAssignments _ _
  · exact (quiet_pure _).bind fun _ => quiet_setAssignments _ _

end Baseline

end Overlay
