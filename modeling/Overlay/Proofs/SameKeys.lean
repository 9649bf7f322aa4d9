import Overlay.Conversion

namespace Overlay.Yaml.Tree

/-- As keys of a mapping two floats count as the same if they are equal or both
no number, so that, other than for values, a NaN is the same as itself. -/
theorem sameFloat_self (x : Double) : sameFloat x x = true := by
  cases notNumber : x.isNaN <;> simp [sameFloat, Double.equal, notNumber]

mutual

/-- A tree is the same key as itself. The three statements follow the recursion
of the comparison over a tree, its items and its entries. -/
theorem same_self : ∀ tree : Tree, tree.same tree = true
  | .null => by rw [same]
  | .bool _ => by simp [same]
  | .integer _ => by simp [same]
  | .float x => by rw [same, sameFloat_self]
  | .string _ => by simp [same]
  | .sequence items => by rw [same, sameItems_self items]
  | .mapping entries => by simp [same, sameWithin_of_subset entries entries fun _ member => member]
  | .tagged _ content => by simp [same, same_self content]

theorem sameItems_self : ∀ items : List Tree, sameItems items items = true
  | [] => by rw [sameItems]
  | item :: rest => by rw [sameItems, same_self item, sameItems_self rest, Bool.and_self]

/-- Stated for any larger list of entries, since the comparison looks up each
entry among all entries of the other tree while the recursion walks along the
rest. -/
theorem sameWithin_of_subset : ∀ entries others : List (Tree × Tree), (∀ entry ∈ entries, entry ∈ others) →
    sameWithin entries others = true
  | [], _, _ => by rw [sameWithin]
  | (key, value) :: rest, others, subset => by
    have here : (others.any fun (otherKey, otherValue) => key.same otherKey && value.same otherValue) = true :=
      List.any_eq_true.mpr ⟨(key, value), subset _ List.mem_cons_self, by simp [same_self key, same_self value]⟩
    rw [sameWithin, here,
      sameWithin_of_subset rest others fun entry member => subset entry (List.mem_cons_of_mem _ member),
      Bool.and_self]

end

end Overlay.Yaml.Tree
