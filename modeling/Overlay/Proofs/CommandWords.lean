import Overlay.CommandLine.Options
import Overlay.Proofs.Success

namespace Overlay.CommandLine

section Extra

variable {extra : Switch} {switches : List Switch} {text : String}

/-- A switch that none of the others can be taken for. -/
def Apart (extra : Switch) (switches : List Switch) : Prop :=
  ∀ switch ∈ switches, extra.name ≠ switch.name ∧ ∀ letter, switch.letter = some letter → extra.letter ≠ some letter

/-- A switch more in the list is not found in place of another, as it has
another letter. -/
theorem find?_letter_cons (apart : Apart extra switches) {letter : Char} {switch : Switch}
    (found : switches.find? (fun switch => switch.letter == some letter) = some switch) :
    (extra :: switches).find? (fun switch => switch.letter == some letter) = some switch := by
  have matching := List.find?_some found
  have other := (apart switch (List.mem_of_find?_eq_some found)).2 letter (beq_iff_eq.mp matching)
  rw [List.find?_cons_of_neg (by simpa using other), found]

/-- Nor by a name, as it has another one. -/
theorem find?_name_cons (apart : Apart extra switches) {name : String} {switch : Switch}
    (found : switches.find? (fun switch => switch.name == name) = some switch) :
    (extra :: switches).find? (fun switch => switch.name == name) = some switch := by
  have matching := List.find?_some found
  have other := (apart switch (List.mem_of_find?_eq_some found)).1
  rw [beq_iff_eq.mp matching] at other
  rw [List.find?_cons_of_neg (by simpa using other), found]

namespace Progress

variable {progress next : Progress} {switch : Switch}

/-- The progress when the extra setting was read first. -/
def behind (extra : Switch) (text : String) (progress : Progress) : Progress :=
  { progress with given := (extra.name, text) :: progress.given }

/-- A pending switch is one of these. -/
def PendingIn (switches : List Switch) (progress : Progress) : Prop :=
  ∀ switch value, progress.pending = some (switch, value) → switch ∈ switches

/-- At the start no switch waits for its value. -/
theorem pendingIn_of_none (settled : progress.pending = none) : progress.PendingIn switches := by
  intro switch value pending
  rw [settled] at pending
  cases pending

/-- Recording a switch is not changed by one that is recorded already, unless it
is the same, which might be refused. -/
theorem record_behind (other : extra.name ≠ switch.name) (value : Option String) :
    (progress.behind extra text).record switch value = (progress.record switch value).map (behind extra text) := by
  have given : (progress.behind extra text).isGiven switch = progress.isGiven switch := by
    rw [isGiven, behind, List.any_cons, beq_false_of_ne other, Bool.false_or, isGiven]
  unfold record
  rw [given]
  split
  · rfl
  · split <;> rfl
  · split
    · rfl
    · split <;> rfl
  · split <;> rfl
  · rfl

theorem pending_record {value : Option String} (recorded : progress.record switch value = .ok next) :
    next.pending = progress.pending := by
  unfold record at recorded
  split at recorded
  · cases recorded
  · split at recorded <;> cases recorded
    rfl
  · split at recorded
    · cases recorded
    · split at recorded <;> cases recorded
      rfl
  · split at recorded <;> cases recorded
    rfl
  · cases recorded

/-- A pending switch is settled with the same outcome, a refusal included. -/
theorem settle_behind (apart : Apart extra switches) (known : progress.PendingIn switches) :
    (progress.behind extra text).settle = progress.settle.map (behind extra text) := by
  cases pending : progress.pending with
  | none =>
    have also : (progress.behind extra text).pending = none := pending
    rw [settle, settle, also, pending]
    rfl
  | some waiting =>
    obtain ⟨switch, value⟩ := waiting
    have also : (progress.behind extra text).pending = some (switch, value) := pending
    have recorded : (behind extra text { progress with pending := none }).record switch value = _ :=
      record_behind (apart switch (known switch value pending)).1 value
    rw [settle, settle, also, pending]
    exact recorded

theorem pending_settle (settled : progress.settle = .ok next) : next.pending = none := by
  unfold settle at settled
  split at settled
  · rename_i nothing
    cases settled
    exact nothing
  · exact pending_record settled

/-- One switch is read alike, whether the other was given before or not. What is
pending behind it is one of the known ones again. -/
theorem readSwitch_behind (apart : Apart extra switches) (known : progress.PendingIn switches)
    (member : switch ∈ switches) {attached : Option String} (read : progress.readSwitch switch attached = .ok next) :
    (progress.behind extra text).readSwitch switch attached = .ok (next.behind extra text) ∧
      next.PendingIn switches := by
  obtain ⟨settled, settles, read⟩ := exceptBind_eq_ok_iff.mp read
  have settlesAlso : (progress.behind extra text).settle = .ok (settled.behind extra text) := by
    rw [settle_behind apart known, settles, Except.map]
  rw [readSwitch, settlesAlso]
  simp only [bind, Except.bind]
  split at read
  case isTrue waits =>
    cases read
    refine ⟨if_pos waits, ?_⟩
    rintro _ _ ⟨⟩
    exact member
  case isFalse complete =>
    rw [if_neg complete, record_behind (apart switch member).1, read]
    exact ⟨rfl, pendingIn_of_none ((pending_record read).trans (pending_settle settles))⟩

/-- Letters that are read with the other switches are read in the same way with
the extra one besides them. -/
theorem readLetters_behind (apart : Apart extra switches) {letters : List Char} (known : progress.PendingIn switches)
    (read : progress.readLetters switches letters = .ok next) :
    (progress.behind extra text).readLetters (extra :: switches) letters = .ok (next.behind extra text) ∧
      next.PendingIn switches := by
  induction letters generalizing progress with
  | nil =>
    cases read
    exact ⟨rfl, known⟩
  | cons letter rest ih =>
    rw [readLetters] at read ⊢
    cases found : switches.find? fun switch => switch.letter == some letter with
    | none =>
      rw [found] at read
      cases read
    | some switch =>
      have member := List.mem_of_find?_eq_some found
      rw [found] at read
      rw [find?_letter_cons apart found]
      dsimp only at read ⊢
      split at read
      case isTrue hasValue =>
        rw [if_pos hasValue]
        split at read <;> exact readSwitch_behind apart known member read
      case isFalse alone =>
        obtain ⟨middle, first, later⟩ := exceptBind_eq_ok_iff.mp read
        obtain ⟨firstAlso, knownThen⟩ := readSwitch_behind apart known member first
        rw [if_neg alone, firstAlso]
        exact ih knownThen later

theorem readName_behind (apart : Apart extra switches) {word : List Char} (known : progress.PendingIn switches)
    (read : progress.readName switches word = .ok next) :
    (progress.behind extra text).readName (extra :: switches) word = .ok (next.behind extra text) ∧
      next.PendingIn switches := by
  unfold readName at read ⊢
  -- the name and the value are the same in both readings
  generalize Text.splitAtFirst '=' word = parts at read ⊢
  cases parts
  all_goals
    dsimp only at read ⊢
    split at read
    case h_1 => cases read
    case h_2 switch found =>
      rw [find?_name_cons apart found]
      dsimp only
      split at read
      case isTrue => cases read
      case isFalse fits =>
        rw [if_neg fits]
        exact readSwitch_behind apart known (List.mem_of_find?_eq_some found) read

/-- A positional word counts against the limit as before. -/
theorem readWord_behind (apart : Apart extra switches) {limit : Nat} {word : String}
    (known : progress.PendingIn switches) (read : progress.readWord limit word = .ok next) :
    (progress.behind extra text).readWord limit word = .ok (next.behind extra text) ∧ next.PendingIn switches := by
  unfold readWord at read ⊢
  split at read
  case isTrue room =>
    obtain ⟨settled, settles, read⟩ := exceptBind_eq_ok_iff.mp read
    cases read
    rw [if_pos (show (progress.behind extra text).words.length < limit from room), settle_behind apart known, settles]
    exact ⟨rfl, pendingIn_of_none (show settled.pending = none from pending_settle settles)⟩
  case isFalse => cases read

/-- The step of the simulation: one word of the line, of whatever sort. -/
theorem read_behind (apart : Apart extra switches) {limit : Nat} {word : String} (known : progress.PendingIn switches)
    (read : progress.read switches limit word = .ok next) :
    (progress.behind extra text).read (extra :: switches) limit word = .ok (next.behind extra text) ∧
      next.PendingIn switches := by
  unfold Progress.read at read ⊢
  split at read
  case isTrue wordsOnly =>
    rw [if_pos (show (progress.behind extra text).wordsOnly = true from wordsOnly)]
    exact readWord_behind apart known read
  case isFalse switchesToo =>
    rw [if_neg (show ¬ (progress.behind extra text).wordsOnly = true from switchesToo)]
    split at read
    · cases read
      exact ⟨rfl, known⟩
    · exact readName_behind apart known read
    · exact readLetters_behind apart known read
    · have pending : (progress.behind extra text).pending = progress.pending := rfl
      rw [pending]
      split at read
      · rename_i waiting
        cases read
        refine ⟨rfl, ?_⟩
        rintro _ _ ⟨⟩
        exact known _ _ waiting
      · exact readWord_behind apart known read

end Progress

/-- All words up to a command. By induction on the words, with the step above;
the reading behind is the reading before with the other switch recorded in
front. -/
theorem readWords_behind (apart : Apart extra switches) {limit : Nat} {commands words : List String}
    {progress last : Progress} {found : Option (String × List String)} (known : progress.PendingIn switches)
    (read : readWords switches limit commands progress words = .ok (last, found)) :
    readWords (extra :: switches) limit commands (progress.behind extra text) words =
      .ok (last.behind extra text, found) ∧ last.PendingIn switches := by
  induction words generalizing progress with
  | nil =>
    cases read
    exact ⟨rfl, known⟩
  | cons word rest ih =>
    rw [readWords] at read ⊢
    have awaits : (progress.behind extra text).awaitsValue = progress.awaitsValue := rfl
    have only : (progress.behind extra text).wordsOnly = progress.wordsOnly := rfl
    rw [awaits, only]
    split at read
    case isTrue stops =>
      cases read
      exact ⟨if_pos stops, known⟩
    case isFalse goesOn =>
      obtain ⟨middle, first, later⟩ := exceptBind_eq_ok_iff.mp read
      obtain ⟨firstAlso, knownThen⟩ := Progress.read_behind apart known first
      rw [if_neg goesOn, firstAlso]
      exact ih knownThen later

end Extra

/-- The words in front of the name of a command do not depend on the command. -/
theorem readWords_command {switches : List Switch} {limit : Nat} {commands words rest : List String}
    {progress last : Progress} {name : String}
    (read : readWords switches limit commands progress words = .ok (last, some (name, rest))) :
    name ∈ commands ∧ ∃ before, words = before ++ name :: rest ∧ ∀ other ∈ commands, ∀ behind,
      readWords switches limit commands progress (before ++ other :: behind) = .ok (last, some (other, behind)) := by
  induction words generalizing progress with
  | nil => cases read
  | cons word words ih =>
    rw [readWords] at read
    split at read
    case isTrue stops =>
      cases read
      refine ⟨List.contains_iff_mem.mp stops.1, [], rfl, fun other member behind => ?_⟩
      rw [List.nil_append, readWords, if_pos ⟨List.contains_iff_mem.mpr member, stops.2⟩]
    case isFalse goesOn =>
      obtain ⟨middle, first, later⟩ := exceptBind_eq_ok_iff.mp read
      obtain ⟨known, before, rfl, others⟩ := ih later
      refine ⟨known, word :: before, rfl, fun other member behind => ?_⟩
      rw [List.cons_append, readWords, if_neg goesOn, first]
      exact others other member behind

/-- The switch for the format is the only one that the one command has and the
other has not. -/
theorem apart_formatSwitch : Apart formatSwitch (commonSwitches ++ [levelSwitch]) := by
  have all : ∀ switch ∈ commonSwitches ++ [levelSwitch],
      formatSwitch.name ≠ switch.name ∧ switch.letter ≠ formatSwitch.letter := by decide
  intro switch member
  obtain ⟨name, letter⟩ := all switch member
  exact ⟨name, fun _ has same => letter (has.trans same.symm)⟩

section Format

variable {text : String} {format : Format} {progress : Progress}

theorem eq_of_mem_formatNames (named : (text, format) ∈ formatNames) :
    text = "yaml" ∧ format = .yaml ∨ text = "json" ∧ format = .json := by
  simpa [formatNames] using named

/-- The word that gives a format is read at once, as its value is attached to
it. -/
theorem read_format (named : (text, format) ∈ formatNames) (switches : List Switch) :
    Progress.start.read (formatSwitch :: switches) 1 ("--format=" ++ text) =
      .ok (Progress.start.behind formatSwitch text) := by
  rcases eq_of_mem_formatNames named with ⟨rfl, _⟩ | ⟨rfl, _⟩ <;> rfl

theorem values_behind {name : String} (other : formatSwitch.name ≠ name) :
    (progress.behind formatSwitch text).values name = progress.values name := by
  rw [Progress.values, Progress.behind, List.filter_cons_of_neg (by simpa using other), Progress.values]

theorem value?_behind {name : String} (other : formatSwitch.name ≠ name) :
    (progress.behind formatSwitch text).value? name = progress.value? name := by
  rw [Progress.value?, values_behind other, Progress.value?]

/-- The options that both commands have do not depend on the format. -/
theorem optionsOf_behind (config : String) :
    optionsOf (progress.behind formatSwitch text) config = optionsOf progress config := by
  simp (disch := decide) only [optionsOf, value?_behind, values_behind]

theorem commandOf_behind (named : (text, format) ∈ formatNames) :
    commandOf "merge" (progress.behind formatSwitch text) = .merge format := by
  rcases eq_of_mem_formatNames named with ⟨rfl, rfl⟩ | ⟨rfl, rfl⟩ <;> rfl

end Format

/-- The options of a check are read as options of a merge as well, behind the
format. -/
theorem readCommand_merge {words : List String} {options : Options} {progress : Progress}
    (check : readCommand [levelSwitch] "check" words = .ok (.check, options, progress)) {text : String}
    {format : Format} (named : (text, format) ∈ formatNames) :
    readCommand [levelSwitch] "merge" (("--format=" ++ text) :: words) =
      .ok (.merge format, options, progress.behind formatSwitch text) := by
  obtain ⟨⟨last, found⟩, reads, later⟩ := exceptBind_eq_ok_iff.mp check
  obtain ⟨settled, settles, result⟩ := exceptBind_eq_ok_iff.mp later
  obtain ⟨readsAlso, known⟩ := readWords_behind apart_formatSwitch (Progress.pendingIn_of_none rfl) reads
  have readsFormat : readWords (formatSwitch :: (commonSwitches ++ [levelSwitch])) 1 [] .start
      (("--format=" ++ text) :: words) = .ok (last.behind formatSwitch text, found) := by
    rw [readWords, if_neg (fun stops => Bool.false_ne_true stops.1), read_format named]
    exact readsAlso
  have settlesAlso : (last.behind formatSwitch text).settle = .ok (settled.behind formatSwitch text) := by
    rw [Progress.settle_behind apart_formatSwitch known, settles, Except.map]
  refine exceptBind_eq_ok_iff.mpr ⟨_, readsFormat, exceptBind_eq_ok_iff.mpr ⟨_, settlesAlso, ?_⟩⟩
  have words_behind : (settled.behind formatSwitch text).words = settled.words := rfl
  rw [words_behind]
  cases given : settled.words with
  | nil =>
    rw [given] at result
    cases result
  | cons config others =>
    rw [given] at result
    cases result
    dsimp only
    rw [commandOf_behind named, optionsOf_behind]
    rfl

/-- Only one command leads to a check, so the name of the command in the line is
known. -/
theorem eq_check_of_readCommand {more : List Switch} {name : String} {words : List String} {options : Options}
    {progress : Progress} (known : name ∈ commandNames)
    (read : readCommand more name words = .ok (.check, options, progress)) : name = "check" := by
  have names : name = "merge" ∨ name = "check" ∨ name = "help" := by simpa [commandNames] using known
  rcases names with rfl | rfl | rfl
  · obtain ⟨_, _, later⟩ := exceptBind_eq_ok_iff.mp read
    obtain ⟨settled, _, result⟩ := exceptBind_eq_ok_iff.mp later
    cases given : settled.words with
    | nil =>
      rw [given] at result
      cases result
    | cons config others =>
      rw [given] at result
      cases result
  · rfl
  · cases read

/-- A line that asks for a check asks for a merge with the same options and the
same level when the name of the command is changed and a format is added. -/
theorem readInvocation_merge {line : List String} {options : Options} {level : String}
    (check : readInvocation line = .ok ⟨.check, options, level⟩) :
    ∃ before words, line = before ++ "check" :: words ∧ ∀ text format, (text, format) ∈ formatNames →
      readInvocation (before ++ "merge" :: ("--format=" ++ text) :: words) = .ok ⟨.merge format, options, level⟩ := by
  obtain ⟨⟨outer, command⟩, reads, later⟩ := exceptBind_eq_ok_iff.mp check
  cases command with
  | none =>
    obtain ⟨_, _, missing⟩ := exceptBind_eq_ok_iff.mp later
    cases missing
  | some found =>
    obtain ⟨name, words⟩ := found
    obtain ⟨known, before, rfl, others⟩ := readWords_command reads
    dsimp only at later
    split at later
    case isTrue help => cases later
    case isFalse noHelp =>
      obtain ⟨⟨command, read, inner⟩, reading, later⟩ := exceptBind_eq_ok_iff.mp later
      obtain ⟨settled, settles, result⟩ := exceptBind_eq_ok_iff.mp later
      cases result
      obtain rfl := eq_check_of_readCommand known reading
      refine ⟨before, words, rfl, fun text format named => ?_⟩
      refine exceptBind_eq_ok_iff.mpr ⟨_, others "merge" (by decide) _, ?_⟩
      dsimp only
      rw [if_neg (by decide)]
      refine exceptBind_eq_ok_iff.mpr ⟨_, readCommand_merge reading named, ?_⟩
      refine exceptBind_eq_ok_iff.mpr ⟨settled, settles, ?_⟩
      rw [value?_behind (by decide)]
      rfl

end Overlay.CommandLine
