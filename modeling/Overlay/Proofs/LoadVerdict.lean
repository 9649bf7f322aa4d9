import Mathlib
import Overlay.Proofs.AssignmentLists
import Overlay.Proofs.FileVerdict
import Overlay.Proofs.MergeOutcome
import Overlay.Proofs.QuietRuns

namespace Overlay

open Assignment

variable {files : Files} {process : Environment}

theorem FileVerdict.outcome_load {env : Environment} {path : String} {result : Except Failure Arguments}
    (verdict : FileVerdict files env path result) (baseline : Arguments) (ignoreUnknown : Bool) :
    (load files env path baseline ignoreUnknown).outcome =
      result.bind fun file => (merge file baseline ignoreUnknown).outcome := by
  rw [load, Run.outcome_bind, Run.note, Except.bind, Run.outcome_bind, verdict.outcome_eq]

/-- A load warns once, at its start; nothing that it comes upon later is a
warning. -/
theorem notices_load (files : Files) (env : Environment) (path : String) (baseline : Arguments)
    (ignoreUnknown : Bool) :
    ∃ during, (load files env path baseline ignoreUnknown).notices = .experimental :: during ∧
      ∀ notice ∈ during, notice.level ≠ .warn :=
  ⟨_, rfl, (quiet_readArguments env files path).bind fun _ => quiet_merge _ baseline ignoreUnknown⟩

namespace Options

/-- The variables that both files are read with. -/
def environment (options : Options) (files : Files) (process : Environment) : Environment :=
  (LayeredEnvironment.ofSources files process options.envFile options.envAssignments).get?

/-- How it ends to read the defaults; without a file there are none. -/
def DefaultsVerdict (options : Options) (files : Files) (process : Environment)
    (result : Except Failure Arguments) : Prop :=
  match options.defaults with
  | none => result = .ok []
  | some path => FileVerdict files (options.environment files process) path result

/-- The stages before the configuration succeed and make the baseline. -/
structure Prepared (options : Options) (files : Files) (process : Environment) (baseline : Arguments) : Prop where
  overrides : firstMalformed? options.envAssignments = none
  assignments : firstMalformed? options.assignments = none
  defaults : ∃ defaults, options.DefaultsVerdict files process (.ok defaults) ∧
    baseline = Baseline.assigned defaults options.assignments

/-- How a load ends: with the failure of the first stage that fails, or else
with a baseline and the arguments that come of it. -/
inductive Ends (options : Options) (files : Files) (process : Environment) : Except Failure Loaded → Prop
  | override {text : String} : firstMalformed? options.envAssignments = some text →
      Ends options files process (.error (.invalidAssignment text))
  | defaults {failure : Failure} : firstMalformed? options.envAssignments = none →
      options.DefaultsVerdict files process (.error failure) → Ends options files process (.error failure)
  | assignment {defaults : Arguments} {text : String} : firstMalformed? options.envAssignments = none →
      options.DefaultsVerdict files process (.ok defaults) → firstMalformed? options.assignments = some text →
      Ends options files process (.error (.invalidAssignment text))
  | config {baseline : Arguments} {failure : Failure} : options.Prepared files process baseline →
      FileVerdict files (options.environment files process) options.config (.error failure) →
      Ends options files process (.error failure)
  | mismatch {baseline file : Arguments} {key : String} {old new : Value} : options.Prepared files process baseline →
      FileVerdict files (options.environment files process) options.config (.ok file) →
      baseline.find? (Merge.clashes file) = some (key, old) → Merge.given? file key = some new →
      Ends options files process (.error (.typeMismatch key old.kind new.kind))
  | unknown {baseline file : Arguments} {key : String} {value : Value} : options.Prepared files process baseline →
      FileVerdict files (options.environment files process) options.config (.ok file) →
      baseline.find? (Merge.clashes file) = none → options.ignoreUnknown = false →
      file.find? (Merge.isUnknown baseline) = some (key, value) →
      Ends options files process (.error (.unknownArgument key))
  | merged {baseline file merged : Arguments} : options.Prepared files process baseline →
      FileVerdict files (options.environment files process) options.config (.ok file) →
      baseline.find? (Merge.clashes file) = none →
      (options.ignoreUnknown = true ∨ file.find? (Merge.isUnknown baseline) = none) →
      (merge file baseline options.ignoreUnknown).outcome = .ok merged →
      Ends options files process (.ok ⟨baseline, merged⟩)

variable {options : Options}

theorem exists_defaultsVerdict (options : Options) (files : Files) (process : Environment) :
    ∃ result, options.DefaultsVerdict files process result := by
  unfold DefaultsVerdict
  cases options.defaults with
  | none => exact ⟨_, rfl⟩
  | some path => exact exists_fileVerdict files _ path

theorem DefaultsVerdict.outcome_build {result : Except Failure Arguments}
    (verdict : options.DefaultsVerdict files process result) :
    (Baseline.build files (options.environment files process) options).outcome =
      result.bind fun defaults => (Baseline.setAssignments defaults options.assignments).outcome := by
  unfold DefaultsVerdict at verdict
  rw [Baseline.build]
  cases given : options.defaults with
  | none =>
    rw [given] at verdict
    cases verdict
    rfl
  | some path =>
    rw [given] at verdict
    rw [← FileVerdict.outcome_eq verdict]
    exact Run.outcome_bind _ _

/-- The baseline of a load is ready exactly if all overrides of the environment
are well formed and the baseline could be built. -/
theorem prepared_iff {baseline : Arguments} :
    options.Prepared files process baseline ↔ firstMalformed? options.envAssignments = none ∧
      (Baseline.build files (options.environment files process) options).outcome = .ok baseline := by
  constructor
  · intro prepared
    obtain ⟨overrides, assignments, defaults, verdict, same⟩ := prepared
    refine ⟨overrides, ?_⟩
    rw [verdict.outcome_build, Except.bind, Baseline.outcome_setAssignments, assignments, same]
  · intro built
    obtain ⟨overrides, built⟩ := built
    obtain ⟨result, verdict⟩ := exists_defaultsVerdict options files process
    rw [verdict.outcome_build] at built
    cases result with
    | error failure => cases built
    | ok defaults =>
      rw [Except.bind, Baseline.outcome_setAssignments] at built
      cases assignments : firstMalformed? options.assignments with
      | some text =>
        rw [assignments] at built
        cases built
      | none =>
        rw [assignments] at built
        exact ⟨overrides, assignments, defaults, verdict, (Except.ok.inj built).symm⟩

/-- Reading a directory as a file of variables never ends, and nothing else is
done. -/
theorem load_eq_endless (defies : (files options.envFile).defiesReading = true) :
    options.load files process = .endless [.envFile options.envFile] .envEntrySkipped := by
  rw [load, LayeredEnvironment.load, LayeredEnvironment.readFile]
  cases status : files options.envFile with
  | directory | unreadable => rfl
  | _ =>
    rw [status] at defies
    cases defies

/-- With an environment that comes to an end, a load is what it is within that
environment. -/
theorem outcome?_load_of_overrides (reads : (files options.envFile).defiesReading = false)
    (overrides : firstMalformed? options.envAssignments = none) :
    (options.load files process).outcome? =
      some (options.loadIn files (options.environment files process)).outcome := by
  rw [load, Course.outcome?_andThen, LayeredEnvironment.outcome?_load, reads, overrides]
  rfl

theorem outcome_loadIn (files : Files) (env : Environment) :
    (options.loadIn files env).outcome = (Baseline.build files env options).outcome.bind fun baseline =>
      (Overlay.load files env options.config baseline options.ignoreUnknown).outcome.map (Loaded.mk baseline) := by
  rw [loadIn, Run.outcome_bind]
  refine congrArg _ (funext fun baseline => ?_)
  rw [Run.outcome_bind]
  cases (Overlay.load files env options.config baseline options.ignoreUnknown).outcome <;> rfl

theorem Prepared.outcome_loadIn {baseline : Arguments} (prepared : options.Prepared files process baseline)
    {result : Except Failure Arguments}
    (verdict : FileVerdict files (options.environment files process) options.config result) :
    (options.loadIn files (options.environment files process)).outcome =
      (result.bind fun file => (merge file baseline options.ignoreUnknown).outcome).map (Loaded.mk baseline) := by
  rw [Options.outcome_loadIn, (prepared_iff.mp prepared).2, Except.bind, verdict.outcome_load]

/-- The stages behind the overrides of variables end as the rules say. -/
theorem Ends.outcome_loadIn {result : Except Failure Loaded} (ends : options.Ends files process result)
    (overrides : firstMalformed? options.envAssignments = none) :
    (options.loadIn files (options.environment files process)).outcome = result := by
  cases ends with
  | override malformed =>
    rw [overrides] at malformed
    cases malformed
  | defaults _ verdict => rw [Options.outcome_loadIn, verdict.outcome_build, Except.bind, Except.bind]
  | assignment _ verdict malformed =>
    rw [Options.outcome_loadIn, verdict.outcome_build, Except.bind, Baseline.outcome_setAssignments, malformed,
      Except.bind]
  | config prepared verdict => rw [prepared.outcome_loadIn verdict, Except.bind, Except.map]
  | mismatch prepared verdict clash given =>
    rw [prepared.outcome_loadIn verdict, Except.bind, outcome_merge, clash]
    simp only [given, Option.getD_some, Except.map]
  | unknown prepared verdict agrees strict first =>
    rw [prepared.outcome_loadIn verdict, Except.bind, outcome_merge, agrees, strict, if_neg Bool.false_ne_true, first,
      Except.map]
  | merged prepared verdict _ _ success => rw [prepared.outcome_loadIn verdict, Except.bind, success, Except.map]

/-- Each rule names the outcome that the load has, wherever the file of
variables can be read to its end. -/
theorem Ends.outcome?_eq {result : Except Failure Loaded} (ends : options.Ends files process result)
    (reads : (files options.envFile).defiesReading = false) :
    (options.load files process).outcome? = some result := by
  cases overrides : firstMalformed? options.envAssignments with
  | none => rw [outcome?_load_of_overrides reads overrides, ends.outcome_loadIn overrides]
  | some text =>
    have stopped : (options.load files process).outcome? = some (.error (.invalidAssignment text)) := by
      rw [load, Course.outcome?_andThen, LayeredEnvironment.outcome?_load, reads, overrides]
      rfl
    cases ends with
    | override malformed =>
      cases overrides.symm.trans malformed
      exact stopped
    | defaults wellFormed | assignment wellFormed => cases overrides.symm.trans wellFormed
    | config prepared | mismatch prepared | unknown prepared | merged prepared =>
      cases overrides.symm.trans prepared.overrides

theorem Prepared.exists_ends {baseline : Arguments} (prepared : options.Prepared files process baseline) :
    ∃ result, options.Ends files process result := by
  obtain ⟨result, config⟩ := exists_fileVerdict files (options.environment files process) options.config
  cases result with
  | error failure => exact ⟨_, .config prepared config⟩
  | ok file =>
    cases clash : baseline.find? (Merge.clashes file) with
    | some entry =>
      obtain ⟨new, given, _⟩ := Merge.exists_given?_of_clashes (List.find?_some clash)
      exact ⟨_, .mismatch prepared config clash given⟩
    | none =>
      by_cases known : options.ignoreUnknown = true ∨ file.find? (Merge.isUnknown baseline) = none
      · have merges := outcome_merge_eq_ok_iff.mpr ⟨clash, known, rfl⟩
        exact ⟨_, .merged prepared config clash known merges⟩
      · obtain ⟨strict, notAllKnown⟩ := not_or.mp known
        obtain ⟨entry, first⟩ := Option.ne_none_iff_exists'.mp notAllKnown
        exact ⟨_, .unknown prepared config clash (Bool.eq_false_iff.mpr strict) first⟩

/-- Some rule applies to every load: the rules leave nothing out. -/
theorem exists_ends (options : Options) (files : Files) (process : Environment) :
    ∃ result, options.Ends files process result := by
  cases overrides : firstMalformed? options.envAssignments with
  | some text => exact ⟨_, .override overrides⟩
  | none =>
    obtain ⟨result, defaults⟩ := exists_defaultsVerdict options files process
    cases result with
    | error failure => exact ⟨_, .defaults overrides defaults⟩
    | ok arguments =>
      cases assignments : firstMalformed? options.assignments with
      | some text => exact ⟨_, .assignment overrides defaults assignments⟩
      | none => exact Prepared.exists_ends ⟨overrides, assignments, arguments, defaults, rfl⟩

/-- The notices of the variables, which stand in front of those of the other
stages. -/
theorem exists_notices_load {run : Run Loaded} (overrides : firstMalformed? options.envAssignments = none)
    (ends : options.load files process = .ends run) : ∃ layered : List Notice,
      (∀ notice ∈ layered, notice.level ≠ .warn) ∧
        run.notices = layered ++ (options.loadIn files (options.environment files process)).notices := by
  have outcome := LayeredEnvironment.outcome?_load files process options.envFile options.envAssignments
  have quiet := LayeredEnvironment.quiet_load files process options.envFile options.envAssignments
  rw [load] at ends
  generalize LayeredEnvironment.load files process options.envFile options.envAssignments = course
    at outcome quiet ends
  cases course with
  | endless => cases ends
  | ends layers =>
    cases ends
    rw [overrides] at outcome
    split at outcome
    · cases outcome
    · exact ⟨layers.notices, quiet, Run.notices_bind_of_ok (Option.some.inj outcome) _⟩

/-- When one of the stages before the configuration fails, no notice warns. -/
theorem quiet_load_of_not_prepared (unprepared : ∀ baseline, ¬ options.Prepared files process baseline) :
    (options.load files process).Quiet := by
  refine (LayeredEnvironment.quiet_load files process options.envFile options.envAssignments).andThen ?_
  intro layers layered
  rw [LayeredEnvironment.outcome?_load] at layered
  split at layered
  · cases layered
  · split at layered <;> cases layered
    rename_i overrides
    rw [loadIn]
    cases outcome : (Baseline.build files (options.environment files process) options).outcome with
    | ok baseline => exact absurd (prepared_iff.mpr ⟨overrides, outcome⟩) (unprepared baseline)
    | error failure =>
      have built := Baseline.quiet_build (options.environment files process) files options
      rwa [Run.Quiet, ← environment, Run.notices_bind_of_error outcome]

/-- What a load is to come to: it ends with the failure of the first stage that
fails, or else with the merged arguments. It warns exactly once if it comes to
the configuration, before all other notices of this stage, and otherwise not at
all. -/
structure Settles (options : Options) (files : Files) (process : Environment) (run : Run Loaded) : Prop where
  ends : options.load files process = .ends run
  outcome_iff : ∀ result, run.outcome = result ↔ options.Ends files process result
  warns : ∀ baseline, options.Prepared files process baseline → ∃ before during,
    run.notices = before ++ .experimental :: during ∧
      (Overlay.load files (options.environment files process) options.config baseline
        options.ignoreUnknown).notices = .experimental :: during ∧
      ∀ notice ∈ before ++ during, notice.level ≠ .warn
  quiet : (∀ baseline, ¬ options.Prepared files process baseline) →
    ∀ notice ∈ run.notices, notice.level ≠ .warn

/-- A load that comes to an end is settled: it has one of the results of the
rules, and it warns as often as it should. -/
theorem settles_of_ends {run : Run Loaded} (ends : options.load files process = .ends run) :
    options.Settles files process run where
  ends := ends
  outcome_iff result := by
    have reads : (files options.envFile).defiesReading = false := by
      refine Bool.eq_false_iff.mpr fun defies => ?_
      rw [load_eq_endless defies] at ends
      cases ends
    have outcome : (options.load files process).outcome? = some run.outcome := by rw [ends]; rfl
    obtain ⟨settled, rules⟩ := exists_ends options files process
    have same := Option.some.inj (outcome.symm.trans (rules.outcome?_eq reads))
    constructor
    · rintro rfl
      exact same ▸ rules
    · intro other
      exact Option.some.inj (outcome.symm.trans (other.outcome?_eq reads))
  warns baseline prepared := by
    obtain ⟨layered, quiet, whole⟩ := exists_notices_load prepared.overrides ends
    obtain ⟨during, config, quietConfig⟩ := Overlay.notices_load files (options.environment files process)
      options.config baseline options.ignoreUnknown
    have built := Baseline.quiet_build (options.environment files process) files options
    refine ⟨layered ++ (Baseline.build files (options.environment files process) options).notices, during, ?_,
      config, ?_⟩
    · rw [whole, loadIn, Run.notices_bind_of_ok (prepared_iff.mp prepared).2, Run.notices_bind_pure, config,
        List.append_assoc]
    · exact List.forall_mem_append.mpr ⟨List.forall_mem_append.mpr ⟨quiet, built⟩, quietConfig⟩
  quiet unprepared := by
    have quiet := quiet_load_of_not_prepared unprepared
    rwa [ends] at quiet

/-- A load settles if and only if its file of variables can be read once it is
opened. If it cannot, as a directory, the notice of a skipped entry comes for
ever, whatever else is asked for. -/
theorem settles_iff_reads (options : Options) (files : Files) (process : Environment) :
    ((∃ run, options.Settles files process run) ↔ (files options.envFile).defiesReading = false) ∧
    ((files options.envFile).defiesReading = true →
      options.load files process = .endless [.envFile options.envFile] .envEntrySkipped) := by
  refine ⟨⟨?_, fun reads => ?_⟩, load_eq_endless⟩
  · rintro ⟨run, settles⟩
    refine Bool.eq_false_iff.mpr fun defies => ?_
    cases (load_eq_endless defies).symm.trans settles.ends
  · obtain ⟨result, rules⟩ := exists_ends options files process
    obtain ⟨notices, ends⟩ := Course.outcome?_eq_some_iff.mp (rules.outcome?_eq reads)
    exact ⟨_, settles_of_ends ends⟩

/-- Options without defaults, a file of variables or overrides. -/
def bare (config : String) : Options := ⟨config, none, [], "", [], false⟩

/-- A file with an item that refers to a variable, at top level no mapping. -/
def itemFile : Files
  | "c.yaml" => .file "- $\x7bT\x7d\n".toUTF8
  | _ => .missing

theorem prepared_bare (config : String) (process : Environment) :
    (bare config).Prepared itemFile process [] := ⟨rfl, rfl, [], rfl, rfl⟩

theorem documents_itemFile : Documents itemFile "c.yaml" (.sequence [.string "$\x7bT\x7d"]) :=
  ⟨"- $\x7bT\x7d\n", by cbv, by cbv⟩

/-- An empty configuration, beside a directory. -/
def besideDirectory : Files
  | "c.yaml" => .file "".toUTF8
  | "d" => .directory
  | _ => .missing

/-- An unset variable counts before the shape of the document, and an override
without value before the warning. Beside a directory that is given as the file
of variables, not even such an override is reported. -/
theorem settles_iff_reads_unset_item :
    (∃ run, (bare "c.yaml").load itemFile (fun _ => none) = .ends run ∧ run.outcome = .error (.missingVariable "T") ∧
      ∃ before during, run.notices = before ++ .experimental :: during ∧
        ∀ notice ∈ before ++ during, notice.level ≠ .warn) ∧
    (∃ run, ({ bare "c.yaml" with envAssignments := ["T"] }).load itemFile (fun _ => none) = .ends run ∧
      ∀ notice ∈ run.notices, notice.level ≠ .warn) ∧
    ({ bare "c.yaml" with envFile := "d", envAssignments := ["T"] }).load besideDirectory (fun _ => none) =
      .endless [.envFile "d"] .envEntrySkipped := by
  refine ⟨?_, ?_, (settles_iff_reads _ _ _).2 rfl⟩
  · obtain ⟨run, settles⟩ := (settles_iff_reads (bare "c.yaml") itemFile fun _ => none).1.mpr rfl
    obtain ⟨before, during, whole, _, quiet⟩ := settles.warns [] (prepared_bare _ _)
    have failed := (settles.outcome_iff _).mpr
      (.config (prepared_bare _ _) (.unconvertible documents_itemFile (by cbv)))
    exact ⟨run, settles.ends, failed, before, during, whole, quiet⟩
  · obtain ⟨run, settles⟩ :=
      (settles_iff_reads { bare "c.yaml" with envAssignments := ["T"] } itemFile fun _ => none).1.mpr rfl
    exact ⟨run, settles.ends, settles.quiet fun baseline prepared => absurd prepared.overrides (by decide)⟩

/-- No stage of the load fails, and yet it never ends. -/
theorem not_settles_besideDirectory :
    ({ bare "c.yaml" with envFile := "d" }).Ends besideDirectory (fun _ => none) (.ok ⟨[], []⟩) ∧
      ¬ ∃ run, ({ bare "c.yaml" with envFile := "d" }).Settles besideDirectory (fun _ => none) run := by
  have documents : Documents besideDirectory "c.yaml" .null := ⟨"", by cbv, by cbv⟩
  have prepared : ({ bare "c.yaml" with envFile := "d" }).Prepared besideDirectory (fun _ => none) [] :=
    ⟨rfl, rfl, [], rfl, rfl⟩
  refine ⟨.merged prepared (.empty documents rfl) rfl (.inr rfl) rfl, ?_⟩
  rintro ⟨run, settles⟩
  cases (load_eq_endless rfl).symm.trans settles.ends

end Options

end Overlay
