import Overlay.Proofs.EntriesOfList
import Overlay.Proofs.ValueFolds

namespace Overlay.Value

theorem equalItems_iff {items others : List Value} :
    equalItems items others = true ↔ List.Forall₂ (fun v w => v.equal w = true) items others := by
  induction items generalizing others with
  | nil => cases others <;> simp [equalItems]
  | cons item rest ih => cases others <;> simp [equalItems, ih]

/-- The entries of one mapping are all found in the other with equal values.
Nothing is said of the entries of the other, for which their number stands in.
-/
theorem equalWithin_iff {entries others : Arguments} :
    equalWithin entries others = true ↔
      ∀ entry ∈ entries, ∃ other, others.get? entry.1 = some other ∧ entry.2.equal other = true := by
  induction entries with
  | nil => simp [equalWithin]
  | cons entry rest ih =>
    obtain ⟨name, value⟩ := entry
    rw [equalWithin, Bool.and_eq_true, ih, List.forall_mem_cons]
    refine and_congr_left fun _ => ?_
    cases others.get? name <;> simp

theorem equal_sequence_iff {items others : List Value} :
    (Value.sequence items).equal (.sequence others) = true ↔
      List.Forall₂ (fun v w => v.equal w = true) items others := by
  rw [equal, equalItems_iff]

/-- Mappings are equal if they have as many entries and each one of the first
has an equal value in the second. The order has no part in it. -/
theorem equal_mapping_iff {entries others : Arguments} :
    (Value.mapping entries).equal (.mapping others) = true ↔ entries.length = others.length ∧
      ∀ entry ∈ entries, ∃ other, others.get? entry.1 = some other ∧ entry.2.equal other = true := by
  rw [equal, Bool.and_eq_true, beq_iff_eq, equalWithin_iff]

theorem hasNaN_sequence_iff {items : List Value} :
    (Value.sequence items).hasNaN = true ↔ ∃ item ∈ items, item.hasNaN = true := by
  rw [hasNaN]
  induction items with
  | nil => simp [hasNaNItems]
  | cons item rest ih => simp [hasNaNItems, ih]

/-- A mapping has a NaN in it if one of its values has; keys are texts. -/
theorem hasNaN_mapping_iff {entries : Arguments} :
    (Value.mapping entries).hasNaN = true ↔ ∃ entry ∈ entries, entry.2.hasNaN = true := by
  rw [hasNaN]
  induction entries with
  | nil => simp [hasNaNEntries]
  | cons entry rest ih => simp [hasNaNEntries, ih]

/-- No mapping in the value has a name twice. -/
def namesDistinct : Value → Bool :=
  fold (fun _ => true) (fun items => items.all id) fun entries => (Entries.keys entries).Nodup && entries.all Prod.snd

theorem namesDistinct_sequence_iff {items : List Value} :
    (Value.sequence items).namesDistinct = true ↔ ∀ item ∈ items, item.namesDistinct = true := by
  rw [namesDistinct, fold_sequence, List.all_map, List.all_eq_true]
  rfl

/-- The condition on a mapping itself and on all that is inside. -/
theorem namesDistinct_mapping_iff {entries : Arguments} :
    (Value.mapping entries).namesDistinct = true ↔
      entries.keys.Nodup ∧ ∀ entry ∈ entries, entry.2.namesDistinct = true := by
  rw [namesDistinct, fold_mapping, Bool.and_eq_true, List.all_map, List.all_eq_true, decide_eq_true_eq]
  rw [Entries.keys_map entries fun _ value => fold _ _ _ value]
  rfl

/-- Setting a name keeps the names distinct, if the new value has distinct names
inside. -/
theorem namesDistinct_insert {entries : Arguments} {value : Value}
    (distinct : (Value.mapping entries).namesDistinct = true) (name : String) (inner : value.namesDistinct = true) :
    (Value.mapping (entries.insert name value)).namesDistinct = true := by
  obtain ⟨keys, values⟩ := namesDistinct_mapping_iff.mp distinct
  have keysAfter := Entries.nodup_keys_insert keys name value
  refine namesDistinct_mapping_iff.mpr ⟨keysAfter, fun entry member => ?_⟩
  have found := Entries.get?_of_mem keysAfter member
  rw [Entries.get?_insert] at found
  split at found
  · exact Option.some.inj found ▸ inner
  · exact values _ (Entries.mem_of_get? found)

/-- A value is equal to itself unless a NaN is in it. -/
theorem equal_self_iff {value : Value} (distinct : value.namesDistinct = true) :
    value.equal value = true ↔ value.hasNaN = false := by
  induction value using memberInduction with
  | null => exact iff_of_true rfl rfl
  | bool | integer | string => exact iff_of_true (by rw [equal, beq_self_eq_true]) rfl
  | float x => exact Double.equal_self_iff x
  | sequence items ih =>
    have inner := namesDistinct_sequence_iff.mp distinct
    rw [equal_sequence_iff, List.forall₂_same, ← Bool.not_eq_true, hasNaN_sequence_iff]
    simp only [not_exists, not_and, Bool.not_eq_true]
    exact forall₂_congr fun item member => ih item member (inner item member)
  | mapping entries ih =>
    obtain ⟨keys, inner⟩ := namesDistinct_mapping_iff.mp distinct
    rw [equal_mapping_iff, ← Bool.not_eq_true, hasNaN_mapping_iff]
    simp only [true_and, not_exists, not_and, Bool.not_eq_true]
    refine forall₂_congr fun entry member => ?_
    rw [Entries.get?_of_mem keys member, ← ih entry member (inner entry member)]
    simp

end Overlay.Value
