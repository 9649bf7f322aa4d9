import Mathlib
import Overlay.Proofs.Lookups
import Overlay.Proofs.TopLevel

namespace Overlay

open Yaml (Tree)

namespace Yaml.Tree

/-- The variables that a key refers to. Tags do not count, and only strings
refer to variables. -/
def keyReferences : Tree → List String
  | .string text => Placeholder.names text
  | .tagged _ content => content.keyReferences
  | _ => []

mutual

/-- No key of a mapping in the tree refers to a variable. -/
def hasFixedKeys : Tree → Bool
  | .sequence items => hasFixedKeysItems items
  | .mapping entries => hasFixedKeysEntries entries
  | .tagged _ content => content.hasFixedKeys
  | _ => true

def hasFixedKeysItems : List Tree → Bool
  | [] => true
  | item :: rest => item.hasFixedKeys && hasFixedKeysItems rest

def hasFixedKeysEntries : List (Tree × Tree) → Bool
  | [] => true
  | (key, value) :: rest => key.keyReferences.isEmpty && value.hasFixedKeys && hasFixedKeysEntries rest

end

theorem hasFixedKeys_of_mem_items {items : List Tree} (fixed : (Tree.sequence items).hasFixedKeys = true) :
    ∀ item ∈ items, item.hasFixedKeys = true := by
  rw [hasFixedKeys] at fixed
  induction items with
  | nil => exact List.forall_mem_nil _
  | cons item rest ih =>
    rw [hasFixedKeysItems, Bool.and_eq_true] at fixed
    exact List.forall_mem_cons.mpr ⟨fixed.1, ih fixed.2⟩

theorem hasFixedKeys_of_mem_entries {entries : List (Tree × Tree)}
    (fixed : (Tree.mapping entries).hasFixedKeys = true) :
    ∀ entry ∈ entries, entry.1.keyReferences = [] ∧ entry.2.hasFixedKeys = true := by
  rw [hasFixedKeys] at fixed
  induction entries with
  | nil => exact List.forall_mem_nil _
  | cons entry rest ih =>
    obtain ⟨key, value⟩ := entry
    rw [hasFixedKeysEntries, Bool.and_eq_true, Bool.and_eq_true, List.isEmpty_iff] at fixed
    exact List.forall_mem_cons.mpr ⟨fixed.1, ih fixed.2⟩

end Yaml.Tree

namespace Conversion

variable {env other : Environment} {r : Value → Value → Prop}

theorem reads_keyName (key : Tree) : Reads key.keyReferences fun env => keyName env key := by
  induction key using Tree.memberInduction with
  | string text => exact Placeholder.reads_substitute text
  | tagged _ _ ih => exact ih
  | _ => exact reads_nothing nofun

/-- A key without references has the same name in all environments. -/
theorem keyName_congr {key : Tree} (fixed : key.keyReferences = []) : keyName env key = keyName other key :=
  (reads_keyName key).congr (fixed ▸ List.forall_mem_nil _)

/-- Where the keys of a mapping are fixed, its values are related name by name.
-/
theorem arguments_agree_of_fixed {entries : List (Tree × Tree)} (fixed : ∀ entry ∈ entries, entry.1.keyReferences = [])
    (items : ∀ entry ∈ entries, Run.Agree r (value env entry.2) (value other entry.2)) :
    Run.Agree (Entries.Related r) (arguments env [] entries) (arguments other [] entries) := by
  have keys : ∀ entry ∈ entries, Run.Agree Eq (keyName env entry.1) (keyName other entry.1) := by
    intro entry member
    rw [keyName_congr (fixed entry member)]
    exact Run.agree_self _
  refine arguments_agree (fun a b name another v w related sameName holds => ?_) keys items .nil
  rw [← sameName]
  exact related.insert name holds

/-- If the keys of the outermost mapping are fixed, the environment shows in its
values alone. -/
theorem value_agree_at_top (same : SameVariables env other) {tree : Tree}
    (fixed : ∀ entries, tree.untagged = .mapping entries → ∀ entry ∈ entries, entry.1.keyReferences = []) :
    Run.Agree (Value.AlikeAtTop fun v w => v.kind = w.kind) (value env tree) (value other tree) := by
  induction tree using Tree.memberInduction with
  | null => exact Run.agree_pure (.of_mapping?_eq_none rfl rfl)
  | bool _ => exact Run.agree_pure (.of_mapping?_eq_none rfl rfl)
  | integer n =>
    rw [value, value]
    split
    · exact Run.agree_pure (.of_mapping?_eq_none rfl rfl)
    · exact Run.agree_fail _
  | float _ => exact Run.agree_pure (.of_mapping?_eq_none rfl rfl)
  | string text =>
    exact (Placeholder.substitute_agree same text).bind fun _ _ _ => Run.agree_pure (.of_mapping?_eq_none rfl rfl)
  | sequence items =>
    rw [value, value]
    exact (values_agree fun item _ => value_agree same item).bind fun _ _ _ =>
      Run.agree_pure (.of_mapping?_eq_none rfl rfl)
  | mapping entries =>
    rw [value, value]
    exact (arguments_agree_of_fixed (fixed entries rfl) fun entry _ => value_agree same entry.2).bind
      fun _ _ related => Run.agree_pure (.mapping related)
  | tagged _ _ ih =>
    rw [value, value]
    exact ih fixed

end Conversion

/-- A text in which a variable is the value of an argument. -/
def Loading.reference : String := "a: $\x7bT\x7d\n"

theorem Loading.tree_reference : tree reference = .ok (.mapping [(.string "a", .string "$\x7bT\x7d")]) := by cbv

end Overlay
