import Overlay.Proofs.EntriesOfList
import Overlay.Proofs.MergeOutcome

namespace Overlay

open Merge

/-- One merge of a run. -/
structure MergeStep where
  file : Arguments
  ignoreUnknown : Bool

namespace MergeStep

def Succeeds (step : MergeStep) (current : Arguments) : Prop :=
  ∃ merged, (merge step.file current step.ignoreUnknown).outcome = .ok merged

/-- The arguments behind a step; a merge that fails leaves them as they are. -/
def next (step : MergeStep) (current : Arguments) : Arguments :=
  match (merge step.file current step.ignoreUnknown).outcome with
  | .ok merged => merged
  | .error _ => current

/-- The arguments behind a run of merges. -/
def run (start : Arguments) (steps : List MergeStep) : Arguments :=
  steps.foldl (fun current step => step.next current) start

/-- The files of the merges that succeed in a run, the first one first. -/
def accepted (start : Arguments) : List MergeStep → List Arguments
  | [] => []
  | step :: rest =>
    match (merge step.file start step.ignoreUnknown).outcome with
    | .ok merged => step.file :: accepted merged rest
    | .error _ => accepted start rest

end MergeStep

namespace Merge

/-- The value that the last file gives for a key, of those that give one. -/
def lastGiven? (files : List Arguments) (key : String) : Option Value :=
  files.reverse.findSome? fun file => given? file key

/-- All values that files give, the later ones in the place of the earlier ones.
-/
def collect (files : List Arguments) : Arguments :=
  Entries.ofList (files.flatMap fun file => file.filter fun entry => !entry.2.isNull)

theorem lastGiven?_cons (file : Arguments) (later : List Arguments) (key : String) :
    lastGiven? (file :: later) key = (lastGiven? later key).or (given? file key) := by
  simp [lastGiven?, List.findSome?_append]

theorem get?_collect {files : List Arguments} (distinct : ∀ file ∈ files, file.keys.Nodup) (key : String) :
    (collect files).get? key = lastGiven? files key := by
  rw [collect, Entries.get?_ofList]
  induction files with
  | nil => rfl
  | cons file later ih =>
    have first : Entries.get? (file.filter fun entry => !entry.2.isNull).reverse key = given? file key := by
      have here := distinct file List.mem_cons_self
      rw [Entries.get?_reverse (here.sublist (List.filter_sublist.map Prod.fst)),
        Entries.get?_filter_value here (fun value => !value.isNull), given?]
    rw [List.flatMap_cons, List.reverse_append, Entries.get?_append, first, lastGiven?_cons,
      ih fun file member => distinct file (List.mem_cons_of_mem _ member)]

theorem ne_null_of_lastGiven? {files : List Arguments} {key : String} {value : Value}
    (found : lastGiven? files key = some value) : value ≠ .null := by
  obtain ⟨file, _, given⟩ := List.exists_of_findSome?_eq_some found
  exact (given?_eq_some_iff.mp given).2

/-- What the collected files give is what the last file that gave anything did,
which is why the many merges are one. -/
theorem given?_collect {files : List Arguments} (distinct : ∀ file ∈ files, file.keys.Nodup) (key : String) :
    given? (collect files) key = lastGiven? files key := by
  ext value
  rw [given?_eq_some_iff, get?_collect distinct]
  exact ⟨And.left, fun found => ⟨found, ne_null_of_lastGiven? found⟩⟩

end Merge

namespace MergeStep

theorem run_cons (start : Arguments) (step : MergeStep) (rest : List MergeStep) :
    run start (step :: rest) = run (step.next start) rest := rfl

theorem kind_given? {file baseline merged : Arguments} {ignoreUnknown : Bool}
    (success : (merge file baseline ignoreUnknown).outcome = .ok merged) {entry : String × Value}
    (member : entry ∈ baseline) : ((given? file entry.1).getD entry.2).kind = entry.2.kind := by
  have agrees := List.find?_eq_none.mp (outcome_merge_eq_ok_iff.mp success).1 entry member
  cases given : given? file entry.1 with
  | none => rfl
  | some new => simpa [clashes, given] using agrees

/-- Along a run the entries stay in their places, each with the value of the
last merge that succeeds and gives one. -/
theorem run_eq_map (start : Arguments) (steps : List MergeStep) :
    run start steps =
      start.map fun entry => (entry.1, (lastGiven? (accepted start steps) entry.1).getD entry.2) := by
  induction steps generalizing start with
  | nil => simp [run, accepted, lastGiven?]
  | cons step rest ih =>
    rw [run_cons, ih, next, accepted]
    cases outcome : (merge step.file start step.ignoreUnknown).outcome with
    | error failure => rfl
    | ok merged =>
      obtain ⟨_, _, rfl⟩ := outcome_merge_eq_ok_iff.mp outcome
      simp only [overlay, List.map_map]
      refine List.map_congr_left fun entry _ => ?_
      simp only [Function.comp_apply, lastGiven?_cons, Option.getD_or]

/-- No run changes the kind of a value. -/
theorem kind_lastGiven? (start : Arguments) (steps : List MergeStep) {entry : String × Value}
    (member : entry ∈ start) :
    ((lastGiven? (accepted start steps) entry.1).getD entry.2).kind = entry.2.kind := by
  induction steps generalizing start entry with
  | nil => rfl
  | cons step rest ih =>
    rw [accepted]
    cases outcome : (merge step.file start step.ignoreUnknown).outcome with
    | error failure => exact ih start member
    | ok merged =>
      have inMerged : (entry.1, (given? step.file entry.1).getD entry.2) ∈ merged := by
        rw [(outcome_merge_eq_ok_iff.mp outcome).2.2]
        exact List.mem_map_of_mem member
      have later := ih merged inMerged
      rw [kind_given? outcome member] at later
      rw [lastGiven?_cons, Option.getD_or, later]

/-- If every merge of a run succeeds, all its files are accepted. -/
theorem accepted_of_succeeds {start : Arguments} {steps : List MergeStep}
    (success : ∀ i (inRange : i < steps.length), steps[i].Succeeds (run start (steps.take i))) :
    accepted start steps = steps.map MergeStep.file := by
  induction steps generalizing start with
  | nil => rfl
  | cons step rest ih =>
    obtain ⟨merged, outcome⟩ : step.Succeeds start := success 0 (Nat.zero_lt_succ _)
    have later : ∀ i (inRange : i < rest.length), rest[i].Succeeds (run merged (rest.take i)) := by
      intro i inRange
      have here := success (i + 1) (Nat.succ_lt_succ inRange)
      rwa [List.take_succ_cons, run_cons, next, outcome] at here
    rw [accepted, outcome, List.map_cons, ← ih later]

/-- One merge of all that was given stands for a run whose merges all succeed.
-/
theorem outcome_merge_collect {start : Arguments} {steps : List MergeStep}
    (distinct : ∀ step ∈ steps, step.file.keys.Nodup)
    (allAccepted : accepted start steps = steps.map MergeStep.file) :
    (merge (collect (steps.map MergeStep.file)) start true).outcome = .ok (run start steps) := by
  have given : ∀ key, given? (collect (steps.map MergeStep.file)) key = lastGiven? (accepted start steps) key := by
    intro key
    rw [allAccepted]
    refine given?_collect (fun file member => ?_) key
    obtain ⟨step, inSteps, rfl⟩ := List.mem_map.mp member
    exact distinct step inSteps
  have agrees : start.find? (clashes (collect (steps.map MergeStep.file))) = none := by
    refine List.find?_eq_none.mpr fun entry member => ?_
    have same := kind_lastGiven? start steps member
    rw [clashes, given]
    cases found : lastGiven? (accepted start steps) entry.1 with
    | none => simp
    | some new => simpa [found] using same
  refine outcome_merge_eq_ok_iff.mpr ⟨agrees, Or.inl rfl, ?_⟩
  simp only [run_eq_map, overlay, given]

/-- At every point of a run the keys and kinds are those of the start, and each
key has the value of the last merge that has succeeded and gives one. If all
merges succeed, one merge of what they give comes to the same. -/
theorem run_keeps_last_given (start : Arguments) (steps : List MergeStep) :
    (∀ n,
      (run start (steps.take n)).keys = start.keys ∧
      ∀ key, (run start (steps.take n)).get? key =
          (start.get? key).map (lastGiven? (accepted start (steps.take n)) key).getD ∧
        ((run start (steps.take n)).get? key).map Value.kind = (start.get? key).map Value.kind) ∧
    ((∀ step ∈ steps, step.file.keys.Nodup) →
      (∀ i (inRange : i < steps.length), steps[i].Succeeds (run start (steps.take i))) →
      (merge (collect (steps.map MergeStep.file)) start true).outcome = .ok (run start steps)) := by
  refine ⟨fun n => ⟨?_, fun key => ?_⟩, fun distinct success => ?_⟩
  · rw [run_eq_map]
    exact Entries.keys_map start fun key old => (lastGiven? (accepted start (steps.take n)) key).getD old
  · have value : (run start (steps.take n)).get? key =
        (start.get? key).map (lastGiven? (accepted start (steps.take n)) key).getD := by
      rw [run_eq_map]
      exact Entries.get?_map start (fun key old => (lastGiven? (accepted start (steps.take n)) key).getD old) key
    refine ⟨value, ?_⟩
    rw [value]
    cases found : start.get? key with
    | none => rfl
    | some old => exact congrArg some (kind_lastGiven? start (steps.take n) (Entries.mem_of_get? found))
  · exact outcome_merge_collect distinct (accepted_of_succeeds success)

/-- Two merges, of which the second one keeps by a null what the first one gave.
-/
theorem run_keeps_last_given_two_files :
    (merge (collect [[("epochs", .integer 3)], [("epochs", .null), ("name", .string "b")]])
      [("epochs", .integer 1), ("name", .string "a")] true).outcome =
      .ok [("epochs", .integer 3), ("name", .string "b")] :=
  (run_keeps_last_given [("epochs", .integer 1), ("name", .string "a")]
    [⟨[("epochs", .integer 3)], false⟩, ⟨[("epochs", .null), ("name", .string "b")], true⟩]).2
    (by decide)
    (fun
      | 0, _ => ⟨_, rfl⟩
      | 1, _ => ⟨_, rfl⟩)

end MergeStep

end Overlay
