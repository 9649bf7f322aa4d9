import Mathlib
import Overlay.Proofs.CheckOutput
import Overlay.Proofs.CommandWords
import Overlay.Proofs.JsonOutput
import Overlay.Proofs.LoadVerdict
import Overlay.Proofs.PrintedEntries

namespace Overlay

namespace Format

/-- What an output shows at its top level: entries with these names, in this
order. As JSON it denotes an object whose members have the names, as YAML it is
a mapping with one entry behind the other that start with them. -/
def Shows (format : Format) (output : String) (names : List String) : Prop :=
  match format with
  | .yaml => ∃ entries, Yaml.TopLevel output.toList entries ∧ List.Forall₂ Yaml.Opens names entries
  | .json => ∃ members, Json.Denotes output (.object members) ∧ members.map Prod.fst = names

theorem shows_print (format : Format) (arguments : Arguments) :
    format.Shows (format.print arguments) (arguments.map Prod.fst) := by
  cases format with
  | yaml => exact Yaml.topLevel_print arguments
  | json =>
    refine ⟨_, Json.denotes_print_iff.mpr (Json.Tree.ofValue_mapping arguments).symm, ?_⟩
    rw [List.map_map]
    rfl

/-- An output shows one number of entries. -/
theorem Shows.length_eq {format : Format} {output : String} {names others : List String}
    (first : format.Shows output names) (second : format.Shows output others) : names.length = others.length := by
  cases format with
  | yaml =>
    obtain ⟨entries, topLevel, opened⟩ := first
    obtain ⟨again, topLevel', opened'⟩ := second
    rw [opened.length_eq, opened'.length_eq, topLevel.unique topLevel']
  | json =>
    obtain ⟨members, denotes, rfl⟩ := first
    obtain ⟨again, denotes', rfl⟩ := second
    cases denotes.unique denotes'
    rfl

/-- Nothing is not a printed set of arguments, not even of none. -/
theorem not_shows_empty (format : Format) (names : List String) : ¬ format.Shows "" names := by
  cases format with
  | yaml =>
    rintro ⟨entries, topLevel, -⟩
    cases topLevel with
    | block nonempty cut => exact nonempty (congrArg Prod.snd cut).symm
  | json =>
    rintro ⟨members, denotes, -⟩
    rw [Json.Denotes, show "".toList = [] from rfl, Json.tokens_nil] at denotes
    obtain ⟨tail, tokens⟩ := Json.Tree.exists_tokens_eq (.object members)
    rw [tokens] at denotes
    cases denotes

end Format

/-- What a check and a merge of one configuration have in common. They end
alike, or neither ends, and they write the same to the error stream. The check
finds the configuration valid if and only if the merge prints the arguments that
the load comes to, and the number that it tells is that of the entries that the
printed text shows. -/
structure SameVerdict (options : Options) (files : Files) (process : Environment) (coloured : Bool) (format : Format)
    (check merge : Report) : Prop where
  exitCode : check.exitCode? = merge.exitCode?
  exits_iff : check.exitCode? ≠ none ↔ (files options.envFile).defiesReading = false
  errorOutput : ∀ shown, check.errorOutput shown coloured = merge.errorOutput shown coloured
  valid_iff : (∃ count, ReportsValid options coloured check.output count) ↔ ∃ loaded,
    (options.load files process).outcome? = some (.ok loaded) ∧ merge.output = format.print loaded.merged
  names : ∀ loaded, (options.load files process).outcome? = some (.ok loaded) →
    format.Shows merge.output (loaded.merged.map Prod.fst)
  count_iff : ∀ count, ReportsValid options coloured check.output count ↔ ∃ names,
    format.Shows merge.output names ∧ names.length = count

namespace Invocation

variable {options : Options} {level : String} {format : Format} {files : Files} {process : Environment}
  {coloured : Bool}

/-- The command decides on the output and on nothing else: the notices and the
end are those of the load. -/
theorem report_congr (command other : Command) (options : Options) (level : String) (files : Files)
    (process : Environment) (coloured : Bool) :
    ((Invocation.mk command options level).report files process coloured).notices =
        ((Invocation.mk other options level).report files process coloured).notices ∧
      ((Invocation.mk command options level).report files process coloured).ending =
        ((Invocation.mk other options level).report files process coloured).ending := by
  simp only [report]
  split <;> exact ⟨rfl, rfl⟩

theorem output_of_load {command : Command} {loaded : Loaded}
    (load : (options.load files process).outcome? = some (.ok loaded)) :
    ((Invocation.mk command options level).report files process coloured).output =
      command.heading options ++ command.result options coloured loaded := by
  obtain ⟨notices, ends⟩ := Course.outcome?_eq_some_iff.mp load
  simp only [report, ends]

/-- A command that fails, or that never comes to an end, prints nothing behind
its heading. -/
theorem output_of_no_load {command : Command}
    (failed : ∀ loaded, (options.load files process).outcome? ≠ some (.ok loaded)) :
    ((Invocation.mk command options level).report files process coloured).output = command.heading options := by
  simp only [report]
  split
  · rename_i loaded ends
    exact absurd (Course.outcome?_eq_some_iff.mpr ⟨_, ends⟩) (failed loaded)
  · rfl
  · rfl

/-- An invocation ends unless its file of variables can be opened and then not
be read. -/
theorem exitCode?_ne_none_iff (invocation : Invocation) (files : Files) (process : Environment) (coloured : Bool) :
    (invocation.report files process coloured).exitCode? ≠ none ↔
      (files invocation.options.envFile).defiesReading = false := by
  cases reads : (files invocation.options.envFile).defiesReading with
  | true =>
    have endless : invocation.options.load files process = _ := Options.load_eq_endless reads
    simp only [report, endless, Report.exitCode?, ne_eq, not_true, Bool.true_eq_false]
  | false =>
    obtain ⟨run, settles⟩ := (Options.settles_iff_reads invocation.options files process).1.mpr reads
    have ends := settles.ends
    obtain ⟨notices, failure | loaded⟩ := run <;>
      simp only [report, ends, Report.exitCode?, ne_eq, reduceCtorEq, not_false_iff]

theorem reportsValid_summary (options : Options) (coloured : Bool) (loaded : Loaded) : ReportsValid options coloured
    (Command.check.heading options ++ loaded.summary options.config coloured) loaded.merged.length := by
  obtain ⟨changes, summary⟩ : ∃ changes, loaded.summary options.config coloured =
      changes ++ verdictLine options.config coloured loaded.merged.length loaded.overridden.length :=
    ⟨_, String.append_assoc⟩
  exact ⟨changes, loaded.overridden.length, by rw [summary, String.append_assoc]⟩

theorem not_reportsValid_heading (options : Options) (coloured : Bool) (count : Nat) :
    ¬ ReportsValid options coloured (Command.check.heading options) count := by
  rintro ⟨changes, overridden, same⟩
  have lengths := congrArg (·.toList.length) same
  simp only [verdictLine, String.toList_append, List.length_append] at lengths
  have newLine : "\n".toList.length = 1 := rfl
  omega

/-- Either the load succeeds, and the check tells so and the merge prints what
the load comes to, or the check tells no verdict and the merge prints nothing.
-/
theorem output_cases (options : Options) (level : String) (format : Format) (files : Files) (process : Environment)
    (coloured : Bool) :
    (∃ loaded, (options.load files process).outcome? = some (.ok loaded) ∧
      ReportsValid options coloured ((Invocation.mk .check options level).report files process coloured).output
        loaded.merged.length ∧
      ((Invocation.mk (.merge format) options level).report files process coloured).output =
        format.print loaded.merged) ∨
    (∀ loaded, (options.load files process).outcome? ≠ some (.ok loaded)) ∧
      (∀ count, ¬ ReportsValid options coloured
        ((Invocation.mk .check options level).report files process coloured).output count) ∧
      ((Invocation.mk (.merge format) options level).report files process coloured).output = "" := by
  by_cases load : ∃ loaded, (options.load files process).outcome? = some (.ok loaded)
  · obtain ⟨loaded, load⟩ := load
    refine .inl ⟨loaded, load, ?_, ?_⟩
    · rw [output_of_load load]
      exact reportsValid_summary options coloured loaded
    · exact (output_of_load load).trans String.empty_append
  · have failed : ∀ loaded, (options.load files process).outcome? ≠ some (.ok loaded) := not_exists.mp load
    refine .inr ⟨failed, ?_, output_of_no_load failed⟩
    rw [output_of_no_load failed]
    exact not_reportsValid_heading options coloured

theorem sameVerdict (options : Options) (level : String) (format : Format) (files : Files) (process : Environment)
    (coloured : Bool) : SameVerdict options files process coloured format
    ((Invocation.mk .check options level).report files process coloured)
    ((Invocation.mk (.merge format) options level).report files process coloured) := by
  obtain ⟨sameNotices, sameEnding⟩ := report_congr .check (.merge format) options level files process coloured
  have outputs := output_cases options level format files process coloured
  constructor
  case exitCode => simp only [Report.exitCode?, sameEnding]
  case exits_iff => exact exitCode?_ne_none_iff _ files process coloured
  case errorOutput =>
    intro shown
    simp only [Report.errorOutput, sameNotices, sameEnding]
  case valid_iff =>
    obtain ⟨loaded, load, valid, merged⟩ | ⟨failed, invalid, _⟩ := outputs
    · exact iff_of_true ⟨_, valid⟩ ⟨loaded, load, merged⟩
    · exact iff_of_false (not_exists.mpr invalid) fun ⟨loaded, load, _⟩ => failed loaded load
  case names =>
    intro loaded load
    obtain ⟨other, load', _, merged⟩ | ⟨failed, _⟩ := outputs
    · cases load.symm.trans load'
      rw [merged]
      exact format.shows_print loaded.merged
    · exact absurd load (failed loaded)
  case count_iff =>
    intro count
    obtain ⟨loaded, _, valid, merged⟩ | ⟨_, invalid, nothing⟩ := outputs
    · have shows := format.shows_print loaded.merged
      rw [merged]
      constructor
      · exact fun other => ⟨_, shows, (List.length_map _).trans (valid.unique other)⟩
      · rintro ⟨names, others, rfl⟩
        rwa [others.length_eq shows, List.length_map]
    · rw [nothing]
      exact iff_of_false (invalid count) fun ⟨names, shows, _⟩ => format.not_shows_empty names shows

/-- A check and a merge of the same configuration agree, at every level and in
either format; and whatever line asks for the check also asks for the merge,
with the name of the command changed and a format added. -/
theorem check_agrees_with_merge (options : Options) (level : String) (format : Format) (files : Files)
    (process : Environment) (coloured : Bool) :
    SameVerdict options files process coloured format
      ((Invocation.mk .check options level).report files process coloured)
      ((Invocation.mk (.merge format) options level).report files process coloured) ∧
    ∀ line, CommandLine.readInvocation line = .ok ⟨.check, options, level⟩ →
      ∃ before words, line = before ++ "check" :: words ∧ ∀ text, (text, format) ∈ CommandLine.formatNames →
        CommandLine.readInvocation (before ++ "merge" :: ("--format=" ++ text) :: words) =
          .ok ⟨.merge format, options, level⟩ := by
  refine ⟨sameVerdict options level format files process coloured, fun line check => ?_⟩
  obtain ⟨before, words, split, merges⟩ := CommandLine.readInvocation_merge check
  exact ⟨before, words, split, fun text named => merges text format named⟩

/-- A line with the level in front of the command and an argument of its own. -/
def checkedLine : List String := ["--log-level", "debug", "check", "c.yaml", "-a", "x=1"]

def checkedOptions : Options := ⟨"c.yaml", none, ["x=1"], ".env", [], false⟩

def checkedFiles : Files
  | "c.yaml" => .file "x: 2\n".toUTF8
  | _ => .missing

theorem check_agrees_with_merge_debug :
    SameVerdict checkedOptions checkedFiles (fun _ => none) false .json
        ((Invocation.mk .check checkedOptions "debug").report checkedFiles (fun _ => none) false)
        ((Invocation.mk (.merge .json) checkedOptions "debug").report checkedFiles (fun _ => none) false) ∧
      CommandLine.readInvocation checkedLine = .ok ⟨.check, checkedOptions, "debug"⟩ ∧
      ∃ before words, checkedLine = before ++ "check" :: words ∧ ∀ text, (text, Format.json) ∈ CommandLine.formatNames →
        CommandLine.readInvocation (before ++ "merge" :: ("--format=" ++ text) :: words) =
          .ok ⟨.merge .json, checkedOptions, "debug"⟩ := by
  have read : CommandLine.readInvocation checkedLine = .ok ⟨.check, checkedOptions, "debug"⟩ := by cbv
  obtain ⟨verdict, lines⟩ := check_agrees_with_merge checkedOptions "debug" .json checkedFiles (fun _ => none) false
  exact ⟨verdict, read, lines _ read⟩

end Invocation

end Overlay
