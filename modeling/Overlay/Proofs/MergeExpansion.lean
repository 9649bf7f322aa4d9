import Overlay.Proofs.MergeKeys

namespace Overlay.Yaml.Tree

theorem height_pos (tree : Tree) : 0 < tree.height := by
  cases tree <;> simp only [height] <;> omega

theorem height_le_heightOfItems {items : List Tree} {item : Tree} (member : item ∈ items) :
    item.height ≤ heightOfItems items := by
  induction items with
  | nil => cases member
  | cons first rest ih =>
    rw [heightOfItems]
    rcases List.mem_cons.mp member with rfl | later
    · omega
    · have below := ih later
      omega

theorem height_le_heightOfValues {entries : List (Tree × Tree)} {entry : Tree × Tree} (member : entry ∈ entries) :
    entry.2.height ≤ heightOfValues entries := by
  induction entries with
  | nil => cases member
  | cons first rest ih =>
    obtain ⟨key, value⟩ := first
    rw [heightOfValues]
    rcases List.mem_cons.mp member with rfl | later
    · exact Nat.le_max_left _ _
    · have below := ih later
      omega

/-- What a merge key offers lies at least one level inside of its value. So an
entry that is merged in is no higher than the mapping that it was merged into
was. -/
theorem Offers.height_lt {source : List (Tree × Tree)} {value : Tree} (offers : Offers source value) :
    heightOfValues source < value.height := by
  cases offers with
  | single =>
    rw [height]
    omega
  | several member =>
    have below := height_le_heightOfItems member
    simp only [height] at below ⊢
    omega

/-- Merging takes no value from higher up. -/
theorem height_of_mem_mergeEntries {entries merged : List (Tree × Tree)} {entry : Tree × Tree}
    (success : mergeEntries entries = .ok merged) (member : entry ∈ merged) :
    entry.2.height ≤ heightOfValues entries := by
  obtain ⟨rfl, stems⟩ := mergeEntries_eq_ok success
  rcases List.mem_append.mp member with explicit | inAdded
  · exact height_le_heightOfValues (mem_explicitEntries explicit)
  · obtain ⟨_, source, ⟨key, value, inEntries, _, offers⟩, inSource⟩ := stems entry inAdded
    have atSource : entry.2.height ≤ heightOfValues source := height_le_heightOfValues inSource
    have atValue : value.height ≤ heightOfValues entries := height_le_heightOfValues inEntries
    have inner := offers.height_lt
    omega

/-- Depths from the height on make no difference. -/
theorem expandWithin_eq {depth more : Nat} {tree : Tree} (enough : tree.height ≤ depth)
    (alsoEnough : tree.height ≤ more) : expandWithin depth tree = expandWithin more tree := by
  induction depth generalizing tree more with
  | zero =>
    have positive := tree.height_pos
    omega
  | succ depth ih =>
    cases more with
    | zero =>
      have positive := tree.height_pos
      omega
    | succ more =>
      cases tree with
      | mapping entries =>
        rw [height] at enough alsoEnough
        rw [expandWithin, expandWithin]
        cases success : mergeEntries entries with
        | error fault => rfl
        | ok merged =>
          refine congrArg (· >>= fun entries => pure (Tree.mapping entries)) (mapM_congr_left fun entry member => ?_)
          obtain ⟨key, value⟩ := entry
          -- an entry that was merged in is no higher than the source it comes from, which is one of the values
          have below : value.height ≤ heightOfValues entries := height_of_mem_mergeEntries success member
          have inner : expandWithin depth value = expandWithin more value := ih (by omega) (by omega)
          simp only [inner]
      | sequence items =>
        rw [height] at enough alsoEnough
        have same : items.mapM (expandWithin depth) = items.mapM (expandWithin more) := by
          refine mapM_congr_left fun item member => ?_
          have below := height_le_heightOfItems member
          exact ih (by omega) (by omega)
        rw [expandWithin, expandWithin, same]
      | tagged tag content =>
        rw [height] at enough alsoEnough
        have inner : expandWithin depth content = expandWithin more content := ih (by omega) (by omega)
        rw [expandWithin, expandWithin, inner]
      | _ => rfl

/-- The depth that the recursion is given is no more than a bound: from the
height of the tree on, it does not matter. -/
theorem expandWithin_of_height_le {depth : Nat} {tree : Tree} (enough : tree.height ≤ depth) :
    expandWithin depth tree = tree.expandMerges := expandWithin_eq enough le_rfl

/-- In a mapping the merge key is carried out first, then those of the values
that the mapping has by then. -/
theorem expandMerges_mapping (entries : List (Tree × Tree)) : (Tree.mapping entries).expandMerges = do
    let merged ← mergeEntries entries
    let expanded ← merged.mapM fun entry => entry.2.expandMerges.map (Prod.mk entry.1)
    return .mapping expanded := by
  rw [expandMerges, height, Nat.add_comm, expandWithin]
  cases success : mergeEntries entries with
  | error fault => rfl
  | ok merged =>
    refine congrArg (· >>= fun entries => pure (Tree.mapping entries)) (mapM_congr_left fun entry member => ?_)
    obtain ⟨key, value⟩ := entry
    have stable : expandWithin (heightOfValues entries) value = value.expandMerges :=
      expandWithin_of_height_le (height_of_mem_mergeEntries success member)
    simp only [stable]
    cases value.expandMerges <;> rfl

/-- The mapping itself is merged first, and only then the values that it has,
those that were merged in included. Keys are left as they are. -/
theorem expandMerges_mapping_eq_ok_iff {entries : List (Tree × Tree)} {tree : Tree} :
    (Tree.mapping entries).expandMerges = .ok tree ↔
      ∃ merged expanded, mergeEntries entries = .ok merged ∧ tree = .mapping expanded ∧
        List.Forall₂ (fun entry result => result.1 = entry.1 ∧ entry.2.expandMerges = .ok result.2)
          merged expanded := by
  have pointwise : ∀ entry result : Tree × Tree, entry.2.expandMerges.map (Prod.mk entry.1) = .ok result ↔
      result.1 = entry.1 ∧ entry.2.expandMerges = .ok result.2 := by
    intro entry result
    rw [exceptMap_eq_ok_iff]
    constructor
    · intro expands
      obtain ⟨value, success, rfl⟩ := expands
      exact ⟨rfl, success⟩
    · intro pieces
      obtain ⟨sameKey, success⟩ := pieces
      exact ⟨result.2, success, Prod.ext sameKey.symm rfl⟩
  simp only [expandMerges_mapping, exceptBind_eq_ok_iff, mapM_eq_ok_iff, pointwise]
  constructor
  · intro expands
    obtain ⟨merged, success, expanded, values, same⟩ := expands
    exact ⟨merged, expanded, success, (Except.ok.inj same).symm, values⟩
  · intro pieces
    obtain ⟨merged, expanded, success, rfl, values⟩ := pieces
    exact ⟨merged, success, expanded, values, rfl⟩

/-- The items of a sequence are carried out one by one. -/
theorem expandMerges_sequence_eq_ok_iff {items : List Tree} {tree : Tree} :
    (Tree.sequence items).expandMerges = .ok tree ↔
      ∃ expanded, tree = .sequence expanded ∧
        List.Forall₂ (fun item result => item.expandMerges = .ok result) items expanded := by
  have each : items.mapM (expandWithin (heightOfItems items)) = items.mapM expandMerges :=
    mapM_congr_left fun item member => expandWithin_of_height_le (height_le_heightOfItems member)
  rw [expandMerges, height, Nat.add_comm, expandWithin, each, exceptBind_eq_ok_iff]
  constructor
  · intro expands
    obtain ⟨expanded, values, same⟩ := expands
    exact ⟨expanded, (Except.ok.inj same).symm, mapM_eq_ok_iff.mp values⟩
  · intro pieces
    obtain ⟨expanded, rfl, values⟩ := pieces
    exact ⟨expanded, mapM_eq_ok_iff.mpr values, rfl⟩

/-- A tag stays in front of what it had. -/
theorem expandMerges_tagged_eq_ok_iff {tag : String} {content tree : Tree} :
    (Tree.tagged tag content).expandMerges = .ok tree ↔
      ∃ expanded, tree = .tagged tag expanded ∧ content.expandMerges = .ok expanded := by
  rw [expandMerges, height, Nat.add_comm, expandWithin, ← expandMerges, exceptBind_eq_ok_iff]
  constructor
  · intro expands
    obtain ⟨expanded, success, same⟩ := expands
    exact ⟨expanded, (Except.ok.inj same).symm, success⟩
  · intro pieces
    obtain ⟨expanded, rfl, success⟩ := pieces
    exact ⟨expanded, success, rfl⟩

end Overlay.Yaml.Tree
