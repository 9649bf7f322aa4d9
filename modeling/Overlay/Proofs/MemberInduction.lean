import Overlay.Value
import Overlay.Yaml.Tree

namespace Overlay

open Yaml (Tree)

/-- Induction on a tree in which every item, key and value of a collection comes
with its hypothesis. -/
theorem Yaml.Tree.memberInduction {motive : Tree → Prop} (null : motive .null) (bool : ∀ b, motive (.bool b))
    (integer : ∀ n, motive (.integer n)) (float : ∀ x, motive (.float x)) (string : ∀ text, motive (.string text))
    (sequence : ∀ items, (∀ item ∈ items, motive item) → motive (.sequence items))
    (mapping : ∀ entries : List (Tree × Tree), (∀ entry ∈ entries, motive entry.1 ∧ motive entry.2) →
      motive (.mapping entries))
    (tagged : ∀ tag content, motive content → motive (.tagged tag content)) (tree : Tree) : motive tree := by
  refine @Tree.rec motive (fun items => ∀ item ∈ items, motive item)
    (fun entries => ∀ entry ∈ entries, motive entry.1 ∧ motive entry.2) (fun entry => motive entry.1 ∧ motive entry.2)
    null bool integer float string sequence mapping tagged ?noItem ?item ?noEntry ?entry ?pair tree
  case noItem => exact List.forall_mem_nil _
  case item => exact fun _ _ here later => List.forall_mem_cons.mpr ⟨here, later⟩
  case noEntry => exact List.forall_mem_nil _
  case entry => exact fun _ _ here later => List.forall_mem_cons.mpr ⟨here, later⟩
  case pair => exact fun _ _ atKey atValue => ⟨atKey, atValue⟩

/-- Induction on a value in which every item and every value of a mapping comes
with its hypothesis. -/
theorem Value.memberInduction {motive : Value → Prop} (null : motive .null) (bool : ∀ b, motive (.bool b))
    (integer : ∀ n, motive (.integer n)) (float : ∀ x, motive (.float x)) (string : ∀ text, motive (.string text))
    (sequence : ∀ items, (∀ item ∈ items, motive item) → motive (.sequence items))
    (mapping : ∀ entries : Arguments, (∀ entry ∈ entries, motive entry.2) → motive (.mapping entries))
    (value : Value) : motive value := by
  refine @Value.rec motive (fun items => ∀ item ∈ items, motive item)
    (fun entries => ∀ entry ∈ entries, motive entry.2) (fun entry => motive entry.2)
    null bool integer float string sequence mapping ?noItem ?item ?noEntry ?entry ?pair value
  case noItem => exact List.forall_mem_nil _
  case item => exact fun _ _ here later => List.forall_mem_cons.mpr ⟨here, later⟩
  case noEntry => exact List.forall_mem_nil _
  case entry => exact fun _ _ here later => List.forall_mem_cons.mpr ⟨here, later⟩
  case pair => exact fun _ _ atValue => atValue

end Overlay
