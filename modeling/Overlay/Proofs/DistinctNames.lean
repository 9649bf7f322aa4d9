import Overlay.Proofs.AssignmentLists
import Overlay.Proofs.ConvertedEntries
import Overlay.Proofs.EqualValues
import Overlay.Proofs.FileVerdict

namespace Overlay

open Yaml (Tree)

/-- A mapping that a conversion makes has no name twice, however often the tree
has it: setting a name that is there replaces its value. By induction on the
tree, so that it holds at every depth. -/
theorem Conversion.namesDistinct_of_value {env : Environment} {tree : Tree} {result : Value}
    (converts : (value env tree).outcome = .ok result) : result.namesDistinct = true := by
  induction tree using Tree.memberInduction generalizing result with
  | integer n =>
    rw [value] at converts
    split at converts <;> cases converts
    rfl
  | string text =>
    rw [value, Run.outcome_bind_eq_ok_iff] at converts
    obtain ⟨_, _, same⟩ := converts
    cases same
    rfl
  | sequence items ih =>
    obtain ⟨results, rfl, each⟩ := value_sequence_eq_ok_iff.mp converts
    refine Value.namesDistinct_sequence_iff.mpr fun item member => ?_
    obtain ⟨source, inItems, here⟩ := exists_left_of_forall₂ each member
    exact ih source inItems here
  | mapping entries ih =>
    obtain ⟨pairs, rfl, each⟩ := value_mapping_eq_ok_iff.mp converts
    have keys := Entries.nodup_keys_ofList pairs
    refine Value.namesDistinct_mapping_iff.mpr ⟨keys, fun entry member => ?_⟩
    obtain ⟨source, inEntries, here⟩ := exists_entry_of_get? each (Entries.get?_of_mem keys member)
    exact (ih source inEntries).2 here.2
  | tagged _ _ ih => exact ih (by rwa [value] at converts)
  | _ =>
    cases converts
    rfl

theorem Conversion.nodup_keys {env : Environment} {document : Tree} {arguments : Arguments}
    (converts : (value env document).outcome = .ok (.mapping arguments)) : arguments.keys.Nodup :=
  (Value.namesDistinct_mapping_iff.mp (namesDistinct_of_value converts)).1

/-- The value of a single argument is no collection, or a string, so there is
nothing in it that could have names. -/
theorem Conversion.namesDistinct_scalar (text : String) : (scalar text).namesDistinct = true := by
  unfold scalar
  split
  · split <;> rfl
  · rfl
  · split <;> rfl
  · rfl
  · rfl
  · rfl

/-- What is read from a file has distinct names at every depth. A file without
content gives no arguments at all. -/
theorem FileVerdict.namesDistinct {files : Files} {env : Environment} {path : String} {arguments : Arguments}
    (verdict : FileVerdict files env path (.ok arguments)) : (Value.mapping arguments).namesDistinct = true := by
  cases verdict with
  | empty => rfl
  | arguments _ converts => exact Conversion.namesDistinct_of_value converts

/-- Single arguments are set over the defaults one by one, and each of them
keeps the names distinct. -/
theorem Baseline.namesDistinct_assigned {arguments : Arguments}
    (distinct : (Value.mapping arguments).namesDistinct = true) (texts : List String) :
    (Value.mapping (assigned arguments texts)).namesDistinct = true := by
  unfold assigned
  induction texts.filterMap Assignment.parse? generalizing arguments with
  | nil => exact distinct
  | cons assignment rest ih =>
    exact ih (Value.namesDistinct_insert distinct assignment.key (Conversion.namesDistinct_scalar assignment.value))

end Overlay
