import Overlay.Proofs.DistinctNames
import Overlay.Proofs.FixedKeys

namespace Overlay

/-- What a run writes to the log: the level and the message of each line. -/
def Run.lines {α : Type} (run : Run α) : List (Level × String) :=
  run.notices.map fun notice => (notice.level, notice.text)

namespace Merge

/-- With unknown arguments ignored, one line is logged for each of them, in the
order of the file and with its name. -/
theorem notices_checkKnown (baseline file : Arguments) :
    (checkKnown baseline true file).notices =
      (file.keys.filter fun key => !baseline.contains key).map Notice.argumentIgnored := by
  induction file with
  | nil => rfl
  | cons entry rest ih =>
    obtain ⟨key, value⟩ := entry
    rw [checkKnown, Entries.keys, List.map_cons, ← Entries.keys]
    cases known : baseline.contains key with
    | true => simp [known, ih]
    | false => simp [known, ih, Run.note]

/-- Without a baseline every argument of the file is unknown, so each name is
logged. -/
theorem notices_merge_nil (file : Arguments) :
    (merge file [] true).notices = file.keys.map Notice.argumentIgnored := by
  have known := outcome_checkKnown [] file true
  have notices := notices_checkKnown [] file
  rw [merge, override]
  generalize checkKnown [] true file = run at known notices ⊢
  obtain ⟨_, _⟩ := run
  cases known
  simpa [Entries.contains] using notices

theorem notices_merge_single (file : Arguments) (key : String) (old : Value) :
    (merge file [(key, old)] true).notices =
      match given? file key with
      | none => (checkKnown [(key, old)] true file).notices
      | some new =>
        if new.kind = old.kind then .argumentTaken key :: (checkKnown [(key, old)] true file).notices else [] := by
  have known := outcome_checkKnown [(key, old)] file true
  rw [merge, override_cons, override]
  generalize checkKnown [(key, old)] true file = run at known ⊢
  obtain ⟨_, _⟩ := run
  cases known
  cases given? file key with
  | none => simp
  | some new =>
    by_cases same : new.kind = old.kind
    · simp [same, Run.note]
    · simp [same, Run.fail]

variable {first second : Arguments}

/-- The lines of a merge without a baseline give the names of the file away: two
files with the same lines have the same names. -/
theorem keys_eq_of_lines (sameLines : (merge first [] true).lines = (merge second [] true).lines) :
    first.keys = second.keys := by
  have injective :
      Function.Injective ((fun notice : Notice => (notice.level, notice.text)) ∘ Notice.argumentIgnored) := by
    intro key another sameLine
    have sameText : "Ignoring unknown argument [" ++ key ++ "] in YAML config" =
        "Ignoring unknown argument [" ++ another ++ "] in YAML config" := (Prod.mk.inj sameLine).2
    rwa [String.append_left_inj, String.append_right_inj] at sameText
  rw [Run.lines, Run.lines, notices_merge_nil, notices_merge_nil, List.map_map, List.map_map] at sameLines
  exact List.map_injective_iff.mpr injective sameLines

/-- Over a baseline with one value, as many notices as of a file that replaces
it come only of files that do, too. -/
theorem kind_eq_of_lines (sameKeys : first.keys = second.keys) {key : String} {value another : Value}
    (found : first.get? key = some value) (there : second.get? key = some another) (present : value ≠ .null)
    (sameLines : (merge first [(key, value)] true).lines = (merge second [(key, value)] true).lines) :
    another.kind = value.kind := by
  have given : given? first key = some value := given?_eq_some_iff.mpr ⟨found, present⟩
  have sameLength := congrArg List.length sameLines
  rw [Run.lines, Run.lines, List.length_map, List.length_map, notices_merge_single, notices_merge_single, given,
    checkKnown_congr _ _ sameKeys] at sameLength
  simp only [if_true, List.length_cons] at sameLength
  cases givenThere : given? second key with
  | none =>
    rw [givenThere] at sameLength
    simp only at sameLength
    omega
  | some new =>
    obtain ⟨atKey, _⟩ := given?_eq_some_iff.mp givenThere
    cases there.symm.trans atKey
    rw [givenThere] at sameLength
    by_contra different
    simp only [if_neg different, List.length_nil] at sameLength
    omega

end Merge

namespace Loading

variable {env other : Environment} {files : Files} {path : String}

/-- In environments that set the same variables a text is loaded alike, or it
has arguments in both and up to their number the notices are the same. -/
theorem ofText_cases (same : SameVariables env other) (origin text : String) :
    ofText env origin text = ofText other origin text ∨
      ∃ notices first second, first.keys.Nodup ∧ second.keys.Nodup ∧
        ofText env origin text = ⟨notices ++ [.parsed first.length origin], .ok first⟩ ∧
        ofText other origin text = ⟨notices ++ [.parsed second.length origin], .ok second⟩ := by
  cases loaded : tree text with
  | error fault => exact Or.inl (by rw [ofText_of_error loaded, ofText_of_error loaded])
  | ok document =>
    rw [ofText_of_ok loaded, ofText_of_ok loaded]
    have agree := Conversion.value_agree same document
    have distinct := @Conversion.nodup_keys env document
    have distinctOther := @Conversion.nodup_keys other document
    generalize Conversion.value env document = run at agree distinct ⊢
    generalize Conversion.value other document = otherRun at agree distinctOther ⊢
    obtain ⟨notices, outcome⟩ := run
    obtain ⟨otherNotices, otherOutcome⟩ := otherRun
    obtain ⟨sameNotices, ends⟩ := agree
    cases sameNotices
    cases ends with
    | failure => exact Or.inl rfl
    | @success value another sameKind =>
      by_cases isMapping : value.kind = .mapping
      · obtain ⟨first, rfl⟩ := Value.kind_eq_mapping_iff.mp isMapping
        obtain ⟨second, rfl⟩ := Value.kind_eq_mapping_iff.mp (sameKind.symm.trans isMapping)
        exact Or.inr ⟨notices, first, second, distinct rfl, distinctOther rfl, rfl, rfl⟩
      · exact Or.inl (by rw [Run.ok_bind, Run.ok_bind, topLevel_of_kind sameKind isMapping])

/-- With the same variables set, reading a file has the same run in both
environments or comes to two maps after the same notices and with as many
entries. -/
theorem readArguments_cases (same : SameVariables env other) (files : Files) (path : String) :
    readArguments files env path = readArguments files other path ∨
      ∃ notices first second, first.keys.Nodup ∧ second.keys.Nodup ∧
        readArguments files env path = ⟨notices ++ [.parsed first.length path], .ok first⟩ ∧
        readArguments files other path = ⟨notices ++ [.parsed second.length path], .ok second⟩ := by
  unfold readArguments
  cases files.readText path with
  | error failure => exact Or.inl rfl
  | ok text =>
    rcases ofText_cases same path text with alike | ⟨notices, first, second, distinct, distinctOther, here, there⟩
    · exact Or.inl (by simp only [Run.ofExcept, Run.ok_bind, alike])
    · refine Or.inr ⟨.readingFile path :: notices, first, second, distinct, distinctOther, ?_, ?_⟩
      · simp [Run.note, Run.ofExcept, here]
      · simp [Run.note, Run.ofExcept, there]

theorem lines_load {notices : List Notice} {file : Arguments}
    (read : readArguments files env path = ⟨notices, .ok file⟩) (baseline : Arguments) (ignoreUnknown : Bool) :
    (load files env path baseline ignoreUnknown).lines =
      (Notice.experimental :: notices).map (fun notice => (notice.level, notice.text)) ++
        (merge file baseline ignoreUnknown).lines := by
  simp [load, read, Run.note, Run.lines]

/-- The log depends on nothing else than the keys of the arguments and the kinds
of their values. -/
theorem lines_load_eq_of_endAlike (same : SameVariables env other)
    (ends : EndAlike (Entries.Related fun v w => v.kind = w.kind)
      (readArguments files env path).outcome (readArguments files other path).outcome)
    (baseline : Arguments) (ignoreUnknown : Bool) :
    (load files env path baseline ignoreUnknown).lines = (load files other path baseline ignoreUnknown).lines := by
  rcases readArguments_cases same files path with alike | ⟨notices, first, second, _, _, read, readOther⟩
  · rw [load, load, alike]
  · rw [read, readOther] at ends
    cases ends with
    | success related =>
      have agree := Merge.merge_agree related (fun _ => rfl) (fun _ _ sameKind => sameKind) baseline ignoreUnknown
      rw [lines_load read, lines_load readOther, related.length_eq, Run.lines, Run.lines, agree.notices]

/-- Over fitting baselines the log shows all keys of the arguments and the kinds
of their values. -/
theorem endAlike_of_lines_load_eq (same : SameVariables env other)
    (sameLines : ∀ baseline ignoreUnknown,
      (load files env path baseline ignoreUnknown).lines = (load files other path baseline ignoreUnknown).lines) :
    EndAlike (Entries.Related fun v w => v.kind = w.kind)
      (readArguments files env path).outcome (readArguments files other path).outcome := by
  rcases readArguments_cases same files path with
    alike | ⟨notices, first, second, distinct, distinctOther, read, readOther⟩
  · rw [alike]
    have refl := @Entries.related_refl Value (fun v w => v.kind = w.kind) fun _ => rfl
    exact (Run.agree_self _).outcome.imp fun first _ equal => equal ▸ refl first
  · have merged : ∀ baseline, (merge first baseline true).lines = (merge second baseline true).lines := by
      intro baseline
      have whole := sameLines baseline true
      rw [lines_load read, lines_load readOther] at whole
      exact (List.append_inj whole (by simp)).2
    have sameKeys := Merge.keys_eq_of_lines (merged [])
    rw [read, readOther]
    refine .success (Entries.related_of_mem sameKeys fun name value another inFirst inSecond => ?_)
    have found := Entries.get?_of_mem distinct inFirst
    have there := Entries.get?_of_mem distinctOther inSecond
    -- a null has no kind to show, so the baseline takes the value that is not null
    by_cases null : value = .null
    · by_cases nullThere : another = .null
      · rw [null, nullThere]
      · exact Merge.kind_eq_of_lines sameKeys.symm there found nullThere (merged _).symm
    · exact (Merge.kind_eq_of_lines sameKeys found there null (merged _)).symm

/-- The log tells environments apart that set the same variables, over some
baseline, exactly if the arguments of the file get other keys or values of other
kinds. It does not if the keys of the outermost mapping refer to no variables.
-/
theorem lines_load_agree_iff (same : SameVariables env other) (files : Files) (path : String) :
    ((∀ baseline ignoreUnknown,
        (load files env path baseline ignoreUnknown).lines = (load files other path baseline ignoreUnknown).lines) ↔
      EndAlike (Entries.Related fun v w => v.kind = w.kind)
        (readArguments files env path).outcome (readArguments files other path).outcome) ∧
    ((∀ text document entries, files.readText path = .ok text → tree text = .ok document →
        document.untagged = .mapping entries → ∀ entry ∈ entries, entry.1.keyReferences = []) →
      ∀ baseline ignoreUnknown,
        (load files env path baseline ignoreUnknown).lines = (load files other path baseline ignoreUnknown).lines) := by
  refine ⟨⟨endAlike_of_lines_load_eq same, lines_load_eq_of_endAlike same⟩, fun fixed => ?_⟩
  have agree := readArguments_agree fun text document found loaded =>
    Conversion.value_agree_at_top same fun entries => fixed text document entries found loaded
  exact lines_load_eq_of_endAlike same agree.outcome

/-- A file in which a variable is the value of an argument. -/
def secretValue : Files := fun _ => .file reference.toUTF8

theorem readText_secretValue : secretValue.readText "c.yaml" = .ok reference := by cbv

theorem lines_load_secretValue :
    (load secretValue (Environment.single "T" "s3cret") "c.yaml" [("a", .string "")] false).lines =
      (load secretValue (Environment.single "T" "x") "c.yaml" [("a", .string "")] false).lines := by
  refine (lines_load_agree_iff (sameVariables_single "T" "s3cret" "x") secretValue "c.yaml").2 ?_ _ _
  intro text document entries found loaded outer entry member
  cases readText_secretValue.symm.trans found
  cases tree_reference.symm.trans loaded
  cases outer
  cases List.mem_singleton.mp member
  cbv

/-- A file in which a variable is the name of an argument. -/
def secretKey : Files := fun _ => .file "$\x7bT\x7d: ~\n".toUTF8

theorem not_lines_load_agree : ¬ ∀ (files : Files) (env other : Environment) (path : String) (baseline : Arguments)
    (ignoreUnknown : Bool), SameVariables env other →
      (load files env path baseline ignoreUnknown).lines = (load files other path baseline ignoreUnknown).lines := by
  intro agree
  have sameLines := agree secretKey _ _ "c.yaml" [("a", .integer 0)] true (sameVariables_single "T" "s3cret" "a")
  have unknown : (load secretKey (Environment.single "T" "s3cret") "c.yaml" [("a", .integer 0)] true).notices =
      [.experimental, .readingFile "c.yaml", .variableResolved "T", .parsed 1 "c.yaml", .argumentIgnored "s3cret"] := by
    cbv
  have known : (load secretKey (Environment.single "T" "a") "c.yaml" [("a", .integer 0)] true).notices =
      [.experimental, .readingFile "c.yaml", .variableResolved "T", .parsed 1 "c.yaml"] := by
    cbv
  rw [Run.lines, Run.lines, unknown, known] at sameLines
  exact absurd (congrArg List.length sameLines) (by decide)

end Loading

end Overlay
