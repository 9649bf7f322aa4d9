import Overlay.Merge
import Overlay.Proofs.EntriesLookup

namespace Overlay

namespace Merge

/-- The value that a file gives for a key; null is no value. -/
def given? (file : Arguments) (key : String) : Option Value :=
  (file.get? key).filter fun value => !value.isNull

/-- The file gives a value of another kind than that of an entry of the
baseline. -/
def clashes (file : Arguments) (entry : String × Value) : Bool :=
  (given? file entry.1).any fun new => new.kind != entry.2.kind

/-- An entry of the file whose key the baseline lacks. -/
def isUnknown (baseline : Arguments) (entry : String × Value) : Bool := !baseline.contains entry.1

/-- The baseline with the values that a file gives, whatever their kinds are. -/
def overlay (file baseline : Arguments) : Arguments :=
  baseline.map fun entry => (entry.1, (given? file entry.1).getD entry.2)

theorem given?_eq_some_iff {file : Arguments} {key : String} {value : Value} :
    given? file key = some value ↔ file.get? key = some value ∧ value ≠ .null := by
  cases value <;> simp [given?, Option.filter_eq_some_iff, Value.isNull]

theorem exists_given?_of_clashes {file : Arguments} {entry : String × Value} (clash : clashes file entry = true) :
    ∃ new, given? file entry.1 = some new ∧ new.kind ≠ entry.2.kind := by
  obtain ⟨new, given, different⟩ := (Option.any_eq_true _ _).mp clash
  exact ⟨new, given, bne_iff_ne.mp different⟩

/-- What one entry of the baseline comes to, by what the file gives for its key.
-/
theorem override_cons (file : Arguments) (key : String) (old : Value) (rest : Arguments) :
    override file ((key, old) :: rest) =
      match given? file key with
      | none => do
        let rest ← override file rest
        return (key, old) :: rest
      | some new =>
        if new.kind = old.kind then do
          Run.note (.argumentTaken key)
          let rest ← override file rest
          return (key, new) :: rest
        else Run.fail (.typeMismatch key old.kind new.kind) := by
  rw [override, given?]
  cases file.get? key with
  | none => rfl
  | some new => cases new <;> rfl

/-- Overriding fails with the first entry of the baseline that clashes and
otherwise lays the file over the baseline. -/
theorem outcome_override (file baseline : Arguments) :
    (override file baseline).outcome =
      match baseline.find? (clashes file) with
      | some (key, old) => .error (.typeMismatch key old.kind ((given? file key).getD old).kind)
      | none => .ok (overlay file baseline) := by
  induction baseline with
  | nil => rfl
  | cons entry rest ih =>
    obtain ⟨key, old⟩ := entry
    rw [override_cons]
    cases given : given? file key with
    | none =>
      have agrees : clashes file (key, old) = false := by simp [clashes, given]
      simp only [Run.outcome_bind, ih, List.find?_cons, agrees]
      cases rest.find? (clashes file) <;> simp [Except.bind, overlay, given]
    | some new =>
      by_cases same : new.kind = old.kind
      · have agrees : clashes file (key, old) = false := by simp [clashes, given, same]
        simp only [if_pos same, Run.outcome_bind, ih, List.find?_cons, agrees]
        cases rest.find? (clashes file) <;> simp [Except.bind, Run.note, overlay, given]
      · have clash : clashes file (key, old) = true := by simp [clashes, given, same]
        simp only [if_neg same, List.find?_cons, clash, given, Option.getD_some, Run.fail]

/-- Of the file only the values count that it gives for keys of the baseline. -/
theorem override_congr {file other baseline : Arguments}
    (agree : ∀ entry ∈ baseline, given? file entry.1 = given? other entry.1) :
    override file baseline = override other baseline := by
  induction baseline with
  | nil => rfl
  | cons entry rest ih =>
    obtain ⟨key, old⟩ := entry
    rw [override_cons, override_cons, agree (key, old) List.mem_cons_self,
      ih fun entry member => agree entry (List.mem_cons_of_mem _ member)]

/-- The check for unknown arguments fails with the first one in the order of the
file, unless they are ignored. -/
theorem outcome_checkKnown (baseline file : Arguments) (ignoreUnknown : Bool) :
    (checkKnown baseline ignoreUnknown file).outcome =
      match if ignoreUnknown then none else file.find? (isUnknown baseline) with
      | some (key, _) => .error (.unknownArgument key)
      | none => .ok () := by
  induction file with
  | nil => cases ignoreUnknown <;> rfl
  | cons entry rest ih =>
    obtain ⟨key, value⟩ := entry
    rw [checkKnown]
    cases known : baseline.contains key with
    | true =>
      have passed : isUnknown baseline (key, value) = false := by simp [isUnknown, known]
      rw [if_pos rfl, ih, List.find?_cons, passed]
    | false =>
      have found : isUnknown baseline (key, value) = true := by simp [isUnknown, known]
      rw [if_neg Bool.false_ne_true, List.find?_cons, found]
      cases ignoreUnknown with
      | true => simpa [Run.note] using ih
      | false => rfl

end Merge

open Merge

/-- A clash of kinds counts before an unknown key, and each of the two is
reported for the first entry that has it. -/
theorem outcome_merge (file baseline : Arguments) (ignoreUnknown : Bool) :
    (merge file baseline ignoreUnknown).outcome =
      match baseline.find? (clashes file), if ignoreUnknown then none else file.find? (isUnknown baseline) with
      | some (key, old), _ => .error (.typeMismatch key old.kind ((given? file key).getD old).kind)
      | none, some (key, _) => .error (.unknownArgument key)
      | none, none => .ok (overlay file baseline) := by
  simp only [merge, Run.outcome_bind, outcome_override, outcome_checkKnown]
  cases baseline.find? (clashes file) with
  | some entry => rfl
  | none =>
    cases (if ignoreUnknown then none else file.find? (isUnknown baseline) : Option (String × Value)) <;> rfl

/-- A merge succeeds exactly if nothing clashes and nothing is unknown or
unknown arguments are ignored, and its result is then determined. -/
theorem outcome_merge_eq_ok_iff {file baseline merged : Arguments} {ignoreUnknown : Bool} :
    (merge file baseline ignoreUnknown).outcome = .ok merged ↔
      baseline.find? (clashes file) = none ∧ (ignoreUnknown = true ∨ file.find? (isUnknown baseline) = none) ∧
        merged = overlay file baseline := by
  rw [outcome_merge]
  cases baseline.find? (clashes file) with
  | some entry => simp
  | none =>
    cases ignoreUnknown <;> cases file.find? (isUnknown baseline) <;> simp [eq_comm]

theorem keys_overlay (file baseline : Arguments) : (overlay file baseline).keys = baseline.keys :=
  Entries.keys_map baseline fun key old => (given? file key).getD old

/-- A key of the baseline has the value that the file gives, or else its own. -/
theorem get?_overlay (file baseline : Arguments) (key : String) :
    (overlay file baseline).get? key = (baseline.get? key).map (given? file key).getD :=
  Entries.get?_map baseline (fun key old => (given? file key).getD old) key

/-- With unknown keys ignored a file counts as its part that the baseline knows.
-/
theorem outcome_merge_known (file baseline : Arguments) :
    (merge file baseline true).outcome =
      (merge (file.filter fun entry => baseline.contains entry.1) baseline false).outcome := by
  have agree : ∀ entry ∈ baseline,
      given? file entry.1 = given? (file.filter fun entry => baseline.contains entry.1) entry.1 := by
    intro entry member
    have known : baseline.contains entry.1 = true := Entries.contains_iff_mem_keys.mpr (List.mem_map_of_mem member)
    rw [given?, given?, Entries.get?_filter_key, if_pos known]
  have allKnown : (file.filter fun entry => baseline.contains entry.1).find? (isUnknown baseline) = none := by
    simp [isUnknown]
  simp only [merge, Run.outcome_bind, outcome_checkKnown, allKnown, override_congr agree]
  rfl

/-- What a merge comes to. A value of another kind counts before an unknown key,
whatever their places are; each is reported for the first entry that has it. -/
theorem merge_verdict (file baseline : Arguments) (ignoreUnknown : Bool) :
    (∀ key old, baseline.find? (clashes file) = some (key, old) →
      ∃ new, file.get? key = some new ∧ new ≠ .null ∧ new.kind ≠ old.kind ∧
        (merge file baseline ignoreUnknown).outcome = .error (.typeMismatch key old.kind new.kind)) ∧
    (baseline.find? (clashes file) = none → ignoreUnknown = false →
      ∀ key value, file.find? (isUnknown baseline) = some (key, value) →
        (merge file baseline ignoreUnknown).outcome = .error (.unknownArgument key)) ∧
    (baseline.find? (clashes file) = none → (ignoreUnknown = true ∨ file.find? (isUnknown baseline) = none) →
      ∃ merged, (merge file baseline ignoreUnknown).outcome = .ok merged ∧ merged.keys = baseline.keys ∧
        ∀ key old, baseline.get? key = some old → merged.get? key = some ((given? file key).getD old)) ∧
    (merge file baseline true).outcome =
      (merge (file.filter fun entry => baseline.contains entry.1) baseline false).outcome := by
  refine ⟨?_, ?_, ?_, outcome_merge_known file baseline⟩
  · intro key old first
    obtain ⟨new, given, different⟩ := exists_given?_of_clashes (List.find?_some first)
    obtain ⟨found, present⟩ := given?_eq_some_iff.mp given
    refine ⟨new, found, present, different, ?_⟩
    rw [outcome_merge, first]
    simp only [given, Option.getD_some]
  · intro agrees strict key value first
    rw [outcome_merge, agrees, strict, first]
    rfl
  · intro agrees allowed
    refine ⟨overlay file baseline, outcome_merge_eq_ok_iff.mpr ⟨agrees, allowed, rfl⟩, keys_overlay file baseline, ?_⟩
    intro key old found
    rw [get?_overlay, found, Option.map_some]

/-- A value of another kind hides an unknown key. -/
theorem merge_verdict_clash_and_unknown :
    (merge [("batch_size", .string "big"), ("extra", .bool true)] [("batch_size", .integer 32)] false).outcome =
      .error (.typeMismatch "batch_size" .integer .string) := by
  obtain ⟨new, found, _, _, failed⟩ :=
    (merge_verdict [("batch_size", .string "big"), ("extra", .bool true)] [("batch_size", .integer 32)] false).1
      "batch_size" (.integer 32) rfl
  cases found
  exact failed

end Overlay
