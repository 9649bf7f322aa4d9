import Overlay.Conversion
import Overlay.Proofs.NumberTexts
import Overlay.Proofs.PlaceholderPieces
import Overlay.Proofs.Success
import Overlay.Yaml.MergeKey

namespace Overlay

open Conversion
open Yaml (Tree)

namespace Yaml.Tree

mutual

/-- No tag stands in the tree, and no string refers to a variable. -/
def isPlain : Tree → Bool
  | .string text => (Placeholder.names text).isEmpty
  | .sequence items => isPlainItems items
  | .mapping entries => isPlainEntries entries
  | .tagged .. => false
  | _ => true

def isPlainItems : List Tree → Bool
  | [] => true
  | item :: rest => isPlain item && isPlainItems rest

def isPlainEntries : List (Tree × Tree) → Bool
  | [] => true
  | (key, value) :: rest => isPlain key && isPlain value && isPlainEntries rest

end

theorem isPlain_of_mem_items {items : List Tree} (plain : (Tree.sequence items).isPlain = true) :
    ∀ item ∈ items, item.isPlain = true := by
  rw [isPlain] at plain
  induction items with
  | nil => simp
  | cons item rest ih =>
    rw [isPlainItems, Bool.and_eq_true] at plain
    exact List.forall_mem_cons.mpr ⟨plain.1, ih plain.2⟩

theorem isPlain_of_mem_entries {entries : List (Tree × Tree)} (plain : (Tree.mapping entries).isPlain = true) :
    ∀ entry ∈ entries, entry.1.isPlain = true ∧ entry.2.isPlain = true := by
  rw [isPlain] at plain
  induction entries with
  | nil => simp
  | cons entry rest ih =>
    obtain ⟨key, value⟩ := entry
    rw [isPlainEntries, Bool.and_eq_true, Bool.and_eq_true] at plain
    exact List.forall_mem_cons.mpr ⟨plain.1, ih plain.2⟩

end Yaml.Tree

variable {env : Environment}

/-- The text of a number is not that of the merge key. -/
theorem ne_mergeKey_of_isNumeral {text : List Char} (numeral : ∀ c ∈ text, isNumeral c = true) :
    text ≠ "<<".toList := by
  rintro rfl
  exact absurd (numeral '<' (by decide)) (by decide)

theorem keyName_mergeKey : (keyName env (.string "<<")).outcome = .ok "<<" := by
  have noNames : Placeholder.names "<<" = [] := by cbv
  rw [keyName, Placeholder.substitute_of_names_eq_nil env noNames]
  rfl

/-- Without tags and references no other key gets the name of the merge key. -/
theorem isMergeKey_of_keyName {key : Tree} (plain : key.isPlain = true)
    (named : (keyName env key).outcome = .ok "<<") : key.isMergeKey = true := by
  cases key with
  | string text =>
    rw [keyName, Placeholder.substitute_of_names_eq_nil env (List.isEmpty_iff.mp plain)] at named
    cases named
    rfl
  | null => exact absurd (Except.ok.inj named) (by decide)
  | bool b => cases b <;> exact absurd (Except.ok.inj named) (by decide)
  | integer n =>
    have same : toString n = "<<" := Except.ok.inj named
    exact absurd (congrArg String.toList same) (ne_mergeKey_of_isNumeral (isNumeral_toString n))
  | float x =>
    have same : String.ofList (Yaml.floatText x) = "<<" := Except.ok.inj named
    refine absurd (congrArg String.toList same) ?_
    rw [String.toList_ofList]
    exact ne_mergeKey_of_isNumeral (Yaml.isNumeral_floatText x)
  | sequence items => cases named
  | mapping entries => cases named
  | tagged tag content => cases plain

end Overlay
