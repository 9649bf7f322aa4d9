import Overlay.Proofs.FileVerdict
import Overlay.Proofs.NamesApart

namespace Overlay

open Yaml (Tree)

namespace Merge

theorem given?_perm {file other : Arguments} (order : file.Perm other) (distinct : file.keys.Nodup) :
    given? file = given? other := by
  funext key
  rw [given?, given?, Entries.get?_perm order distinct]

/-- Whether some argument is unknown does not depend on the order either, though
which is found first does. -/
theorem find?_isUnknown_perm {file other : Arguments} (order : file.Perm other) (baseline : Arguments) :
    file.find? (isUnknown baseline) = none ↔ other.find? (isUnknown baseline) = none := by
  simp only [List.find?_eq_none, order.mem_iff]

/-- A file in another order may fail for another key, but it comes to the same
arguments. -/
theorem outcome_merge_perm {file other : Arguments} (order : file.Perm other) (distinct : file.keys.Nodup)
    {baseline merged : Arguments} {ignoreUnknown : Bool} :
    (merge file baseline ignoreUnknown).outcome = .ok merged ↔
      (merge other baseline ignoreUnknown).outcome = .ok merged := by
  have given := given?_perm order distinct
  have sameClashes : clashes file = clashes other := by
    funext entry
    rw [clashes, clashes, given]
  have sameOverlay : overlay file baseline = overlay other baseline := by rw [overlay, overlay, given]
  rw [outcome_merge_eq_ok_iff, outcome_merge_eq_ok_iff, sameClashes, sameOverlay, find?_isUnknown_perm order]

end Merge

namespace Conversion

variable {env : Environment} {entries others : List (Tree × Tree)}

/-- Entries whose keys get different names convert to the same entries in
whatever order. -/
theorem exists_value_perm (order : entries.Perm others) (apart : NamesApart env entries) {file : Arguments}
    (converts : (value env (.mapping entries)).outcome = .ok (.mapping file)) :
    file.keys.Nodup ∧ ∃ other, (value env (.mapping others)).outcome = .ok (.mapping other) ∧ file.Perm other := by
  obtain ⟨pairs, same, each⟩ := value_mapping_eq_ok_iff.mp converts
  cases same
  obtain ⟨otherPairs, otherEach, otherOrder⟩ := List.perm_comp_forall₂ order.symm each
  have distinct := (named_of_converts each).namesApart_iff.mp apart
  have otherDistinct := (named_of_converts otherEach).namesApart_iff.mp (apart.perm order)
  refine ⟨Entries.nodup_keys_ofList pairs, Entries.ofList otherPairs,
    value_mapping_eq_ok_iff.mpr ⟨otherPairs, rfl, otherEach⟩, ?_⟩
  rw [Entries.ofList_of_nodup distinct, Entries.ofList_of_nodup otherDistinct]
  exact otherOrder.symm

end Conversion

namespace Loading

open Conversion

/-- Converts the tree of a whole document and merges its arguments over a
baseline. -/
def treeOver (env : Environment) (origin : String) (document : Tree) (baseline : Arguments) (ignoreUnknown : Bool) :
    Run Arguments := do
  let value ← Conversion.value env document
  let file ← topLevel origin value
  merge file baseline ignoreUnknown

/-- A load comes to what the tree of its file comes to. -/
theorem outcome_load_eq_treeOver {files : Files} {path : String} {document : Tree}
    (documents : Documents files path document) (env : Environment) (baseline : Arguments) (ignoreUnknown : Bool) :
    (load files env path baseline ignoreUnknown).outcome =
      (treeOver env path document baseline ignoreUnknown).outcome := by
  rw [load, Run.outcome_bind, Run.note, Except.bind, Run.outcome_bind, documents.outcome_readArguments, treeOver,
    Run.outcome_bind]
  cases (value env document).outcome with
  | error failure => rfl
  | ok value => exact (Run.outcome_bind _ _).symm

variable {env : Environment} {entries others : List (Tree × Tree)} {origin : String}
  {baseline merged : Arguments} {ignoreUnknown : Bool}

theorem outcome_treeOver_mapping_eq_ok_iff :
    (treeOver env origin (.mapping entries) baseline ignoreUnknown).outcome = .ok merged ↔
      ∃ file, (value env (.mapping entries)).outcome = .ok (.mapping file) ∧
        (merge file baseline ignoreUnknown).outcome = .ok merged := by
  rw [treeOver, Run.outcome_bind_eq_ok_iff]
  constructor
  · intro loads
    obtain ⟨found, converts, merges⟩ := loads
    obtain ⟨pairs, rfl, _⟩ := value_mapping_eq_ok_iff.mp converts
    obtain ⟨file, same, merges⟩ := Run.outcome_bind_eq_ok_iff.mp merges
    cases same
    exact ⟨_, converts, merges⟩
  · intro pieces
    obtain ⟨file, converts, merges⟩ := pieces
    exact ⟨_, converts, Run.outcome_bind_eq_ok_iff.mpr ⟨file, rfl, merges⟩⟩

theorem outcome_treeOver_of_perm (order : entries.Perm others) (apart : NamesApart env entries)
    (loads : (treeOver env origin (.mapping entries) baseline ignoreUnknown).outcome = .ok merged)
    (elsewhere : String) :
    (treeOver env elsewhere (.mapping others) baseline ignoreUnknown).outcome = .ok merged := by
  obtain ⟨file, converts, merges⟩ := outcome_treeOver_mapping_eq_ok_iff.mp loads
  obtain ⟨distinct, other, otherConverts, sameEntries⟩ := exists_value_perm order apart converts
  exact outcome_treeOver_mapping_eq_ok_iff.mpr
    ⟨other, otherConverts, (Merge.outcome_merge_perm sameEntries distinct).mp merges⟩

/-- The order of the entries of a document decides about nothing but the failure
that is reported: what is loaded in one order is loaded in every other, with the
same arguments in the order of the baseline. -/
theorem outcome_treeOver_perm (order : entries.Perm others) (apart : NamesApart env entries) (origin : String)
    (baseline merged : Arguments) (ignoreUnknown : Bool) :
    (treeOver env origin (.mapping entries) baseline ignoreUnknown).outcome = .ok merged ↔
      (treeOver env origin (.mapping others) baseline ignoreUnknown).outcome = .ok merged :=
  ⟨fun loads => outcome_treeOver_of_perm order apart loads origin,
    fun loads => outcome_treeOver_of_perm order.symm (apart.perm order) loads origin⟩

/-- A key that gets its name from a variable, behind and in front of a key with
a null. -/
theorem outcome_treeOver_perm_reference :
    (treeOver (Environment.single "A" "a") "c.yaml"
      (.mapping [(.string "$\x7bA\x7d", .integer 2), (.string "b", .null)])
      [("b", .bool true), ("a", .integer 0)] false).outcome = .ok [("b", .bool true), ("a", .integer 2)] := by
  have named : Named (Environment.single "A" "a")
      [(.string "b", .null), (.string "$\x7bA\x7d", .integer 2)] ["b", "a"] :=
    .cons (by cbv) (.cons (by cbv) .nil)
  have apart := named.namesApart_iff.mpr (by decide)
  exact (outcome_treeOver_perm (.swap ..) apart "c.yaml" _ _ _).mp (by cbv)

/-- Two files with the same entries in different orders load to the same
arguments, if they load at all. -/
theorem outcome_load_perm {files : Files} {path elsewhere : String} (here : Documents files path (.mapping entries))
    (there : Documents files elsewhere (.mapping others)) (order : entries.Perm others)
    (apart : NamesApart env entries) :
    (load files env path baseline ignoreUnknown).outcome = .ok merged ↔
      (load files env elsewhere baseline ignoreUnknown).outcome = .ok merged := by
  rw [outcome_load_eq_treeOver here, outcome_load_eq_treeOver there]
  exact ⟨fun loads => outcome_treeOver_of_perm order apart loads elsewhere,
    fun loads => outcome_treeOver_of_perm order.symm (apart.perm order) loads path⟩

end Loading

end Overlay
