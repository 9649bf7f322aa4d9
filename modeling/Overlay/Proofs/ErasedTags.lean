import Overlay.Conversion
import Overlay.Proofs.MemberInduction

namespace Overlay

namespace Yaml.Tree

mutual

/-- The tree with all tags taken off its values and keys. Every entry stays,
also one whose key becomes the same as another. -/
def withoutTags : Tree → Tree
  | .sequence items => .sequence (itemsWithoutTags items)
  | .mapping entries => .mapping (entriesWithoutTags entries)
  | .tagged _ content => content.withoutTags
  | tree => tree

def itemsWithoutTags : List Tree → List Tree
  | [] => []
  | item :: rest => item.withoutTags :: itemsWithoutTags rest

def entriesWithoutTags : List (Tree × Tree) → List (Tree × Tree)
  | [] => []
  | (key, value) :: rest => (key.withoutTags, value.withoutTags) :: entriesWithoutTags rest

end

/-- The recursion over the items amounts to a map. -/
theorem withoutTags_sequence (items : List Tree) :
    (Tree.sequence items).withoutTags = .sequence (items.map withoutTags) := by
  rw [withoutTags]
  refine congrArg Tree.sequence ?_
  induction items with
  | nil => rfl
  | cons item rest ih => rw [itemsWithoutTags, ih, List.map_cons]

theorem withoutTags_mapping (entries : List (Tree × Tree)) :
    (Tree.mapping entries).withoutTags =
      .mapping (entries.map fun entry => (entry.1.withoutTags, entry.2.withoutTags)) := by
  rw [withoutTags]
  refine congrArg Tree.mapping ?_
  induction entries with
  | nil => rfl
  | cons entry rest ih => rw [entriesWithoutTags, ih, List.map_cons]

/-- Nothing in the tree has a tag, neither a value nor a key. -/
inductive TagFree : Tree → Prop
  | null : TagFree .null
  | bool {b : Bool} : TagFree (.bool b)
  | integer {n : Int} : TagFree (.integer n)
  | float {x : Double} : TagFree (.float x)
  | string {text : String} : TagFree (.string text)
  | sequence {items : List Tree} : (∀ item ∈ items, TagFree item) → TagFree (.sequence items)
  | mapping {entries : List (Tree × Tree)} : (∀ entry ∈ entries, TagFree entry.1) →
      (∀ entry ∈ entries, TagFree entry.2) → TagFree (.mapping entries)

/-- What is left of a tree has no tag at any depth, in its keys either. -/
theorem tagFree_withoutTags (tree : Tree) : tree.withoutTags.TagFree := by
  induction tree using memberInduction with
  | null => exact .null
  | bool => exact .bool
  | integer => exact .integer
  | float => exact .float
  | string => exact .string
  | sequence items ih =>
    rw [withoutTags_sequence]
    exact .sequence (List.forall_mem_map.mpr ih)
  | mapping entries ih =>
    rw [withoutTags_mapping]
    exact .mapping (List.forall_mem_map.mpr fun entry member => (ih entry member).1)
      (List.forall_mem_map.mpr fun entry member => (ih entry member).2)
  | tagged _ _ ih => rwa [withoutTags]

end Yaml.Tree

namespace Conversion

open Yaml (Tree)

/-- A key is named by what is behind its tags. -/
theorem keyName_withoutTags (env : Environment) (key : Tree) : keyName env key.withoutTags = keyName env key := by
  induction key using Tree.memberInduction with
  | sequence items =>
    rw [Tree.withoutTags_sequence]
    rfl
  | mapping entries =>
    rw [Tree.withoutTags_mapping]
    rfl
  | tagged _ _ ih => rw [Tree.withoutTags, keyName, ih]
  | _ => rfl

theorem values_map {env : Environment} {change : Tree → Tree} {items : List Tree}
    (each : ∀ item ∈ items, value env (change item) = value env item) :
    values env (items.map change) = values env items := by
  induction items with
  | nil => rfl
  | cons item rest ih =>
    obtain ⟨here, later⟩ := List.forall_mem_cons.mp each
    rw [List.map_cons, values, values, here, ih later]

/-- Stated for any change that keeps the names of the keys and what the items
are converted to, so that the induction on the tree only has to supply the two.
-/
theorem arguments_map {env : Environment} {change : Tree → Tree} {entries : List (Tree × Tree)}
    (keys : ∀ entry ∈ entries, keyName env (change entry.1) = keyName env entry.1)
    (each : ∀ entry ∈ entries, value env (change entry.2) = value env entry.2) (earlier : Arguments) :
    arguments env earlier (entries.map fun entry => (change entry.1, change entry.2)) =
      arguments env earlier entries := by
  induction entries generalizing earlier with
  | nil => rfl
  | cons entry rest ih =>
    obtain ⟨key, later⟩ := List.forall_mem_cons.mp keys
    obtain ⟨here, others⟩ := List.forall_mem_cons.mp each
    simp only [List.map_cons, arguments, key, here, ih later others]

/-- Tags carry no meaning: a tree converts as the tree without its tags does, to
the same value or with the same failure, and with the same notices. -/
theorem value_withoutTags (env : Environment) (tree : Tree) :
    tree.withoutTags.TagFree ∧ value env tree = value env tree.withoutTags := by
  refine ⟨tree.tagFree_withoutTags, Eq.symm ?_⟩
  induction tree using Tree.memberInduction with
  | sequence items ih => rw [Tree.withoutTags_sequence, value, value, values_map ih]
  | mapping entries ih =>
    have sameKeys := fun (entry : Tree × Tree) (_ : entry ∈ entries) => keyName_withoutTags env entry.1
    have sameValues := fun entry member => (ih entry member).2
    rw [Tree.withoutTags_mapping, value, value, arguments_map sameKeys sameValues]
  | tagged _ _ ih => rw [Tree.withoutTags, value, ih]
  | _ => rfl

end Conversion

end Overlay
