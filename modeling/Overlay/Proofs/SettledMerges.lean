import Overlay.Proofs.MergeRuns
import Overlay.Proofs.RelatedArguments

namespace Overlay

open Merge

namespace Merge

/-- The same keys in the same order, with values of the same kinds. -/
abbrev SameKinds (first second : Arguments) : Prop :=
  Entries.Related (fun value other => value.kind = other.kind) first second

variable {file baseline merged : Arguments} {ignoreUnknown : Bool}

theorem SameKinds.symm (kinds : SameKinds file baseline) : SameKinds baseline file :=
  kinds.flip.imp fun _ _ same => ⟨same.1.symm, same.2.symm⟩

theorem find?_isUnknown_of_keys (sameKeys : file.keys = baseline.keys) : file.find? (isUnknown baseline) = none := by
  refine List.find?_eq_none.mpr fun entry member => ?_
  have known : entry.1 ∈ baseline.keys := sameKeys ▸ List.mem_map_of_mem member
  rw [isUnknown, Entries.contains_iff_mem_keys.mpr known, Bool.not_true]
  exact Bool.false_ne_true

theorem SameKinds.kind_eq (kinds : SameKinds file baseline) (distinct : baseline.keys.Nodup) {name : String}
    {old new : Value} (member : (name, old) ∈ baseline) (found : file.get? name = some new) : new.kind = old.kind := by
  have there := kinds.get? name
  rw [found, Entries.get?_of_mem distinct member] at there
  cases there with
  | some same => exact same

theorem SameKinds.find?_clashes (kinds : SameKinds file baseline) (distinct : baseline.keys.Nodup) :
    baseline.find? (clashes file) = none := by
  refine List.find?_eq_none.mpr fun entry member clash => ?_
  obtain ⟨new, given, different⟩ := exists_given?_of_clashes clash
  exact different (kinds.kind_eq distinct member (given?_eq_some_iff.mp given).1)

/-- Arguments of the same kinds are taken whole: a null among them meets nothing
but a null. -/
theorem SameKinds.overlay_eq (kinds : SameKinds file baseline) (distinct : baseline.keys.Nodup) :
    overlay file baseline = file := by
  have distinctFile : file.keys.Nodup := kinds.keys ▸ distinct
  refine Entries.Related.eq (Entries.related_of_mem ((keys_overlay file baseline).trans kinds.keys.symm) ?_)
  intro name value new inOverlay inFile
  obtain ⟨⟨key, old⟩, inBaseline, same⟩ := List.mem_map.mp inOverlay
  cases same
  have found := Entries.get?_of_mem distinctFile inFile
  by_cases isNull : new = .null
  · subst isNull
    have absent : given? file key = none := by rw [given?, found]; rfl
    have nullToo := (kinds.kind_eq distinct inBaseline found).symm
    rw [absent, Option.getD_none]
    cases old <;> cases nullToo
    rfl
  · rw [given?_eq_some_iff.mpr ⟨found, isNull⟩, Option.getD_some]

theorem SameKinds.outcome_merge (kinds : SameKinds file baseline) (distinct : baseline.keys.Nodup)
    (ignoring : Bool) : (merge file baseline ignoring).outcome = .ok file :=
  outcome_merge_eq_ok_iff.mpr ⟨kinds.find?_clashes distinct, Or.inr (find?_isUnknown_of_keys kinds.keys),
    (kinds.overlay_eq distinct).symm⟩

/-- A merge keeps the keys and the kinds of the baseline. -/
theorem sameKinds_of_merge (success : (merge file baseline ignoreUnknown).outcome = .ok merged) :
    SameKinds merged baseline := by
  rw [(outcome_merge_eq_ok_iff.mp success).2.2]
  refine List.forall₂_map_left_iff.mpr (List.forall₂_same.mpr fun entry member => ⟨rfl, ?_⟩)
  exact MergeStep.kind_given? success member

/-- What a file gives is there already when it is merged again. -/
theorem outcome_merge_again (success : (merge file baseline ignoreUnknown).outcome = .ok merged) :
    (merge file merged ignoreUnknown).outcome = .ok merged := by
  obtain ⟨_, allowed, rfl⟩ := outcome_merge_eq_ok_iff.mp success
  have agrees : (overlay file baseline).find? (clashes file) = none := by
    refine List.find?_eq_none.mpr fun entry member => ?_
    obtain ⟨⟨key, old⟩, _, rfl⟩ := List.mem_map.mp member
    cases given : given? file key <;> simp [clashes, given]
  have unknown : isUnknown (overlay file baseline) = isUnknown baseline := by
    funext entry
    rw [isUnknown, isUnknown, Bool.eq_iff_iff, Bool.not_eq_true', Bool.not_eq_true', ← Bool.not_eq_true,
      ← Bool.not_eq_true, Entries.contains_iff_mem_keys, Entries.contains_iff_mem_keys, keys_overlay]
  refine outcome_merge_eq_ok_iff.mpr ⟨agrees, unknown ▸ allowed, ?_⟩
  simp only [overlay, List.map_map]
  refine List.map_congr_left fun entry _ => ?_
  simp only [Function.comp_apply]
  cases given? file entry.1 <;> rfl

end Merge

/-- What comes of a merge does not change any more: neither by merging it over
the same baseline, nor by merging the file once more over it. Merging the
baseline over it brings the baseline back. -/
theorem merge_settles {file baseline merged : Arguments} {ignoreUnknown : Bool} (distinct : baseline.keys.Nodup)
    (success : (merge file baseline ignoreUnknown).outcome = .ok merged) :
    (∀ ignoring, (merge merged baseline ignoring).outcome = .ok merged) ∧
      (merge file merged ignoreUnknown).outcome = .ok merged ∧
      ∀ ignoring, (merge baseline merged ignoring).outcome = .ok baseline := by
  have kinds := sameKinds_of_merge success
  have distinctMerged : merged.keys.Nodup := kinds.keys ▸ distinct
  exact ⟨kinds.outcome_merge distinct, outcome_merge_again success, kinds.symm.outcome_merge distinctMerged⟩

/-- A NaN in the place of a negative zero, a null of the file that keeps a text,
a null of the baseline, a sequence in the place of another one, and an unknown
key. -/
theorem merge_settles_nan_and_nulls :
    ∃ merged, merged = [("rate", .float .nan), ("name", .string "a"), ("resume", .null), ("tags", .sequence [.null])] ∧
      (merge merged [("rate", .float (.zero true)), ("name", .string "a"), ("resume", .null), ("tags", .sequence [])]
        false).outcome = .ok merged ∧
      (merge [("rate", .float (.zero true)), ("name", .string "a"), ("resume", .null), ("tags", .sequence [])] merged
        false).outcome =
          .ok [("rate", .float (.zero true)), ("name", .string "a"), ("resume", .null), ("tags", .sequence [])] := by
  obtain ⟨again, _, back⟩ := @merge_settles
    [("tags", .sequence [.null]), ("name", .null), ("rate", .float .nan), ("extra", .bool true)]
    [("rate", .float (.zero true)), ("name", .string "a"), ("resume", .null), ("tags", .sequence [])] _ true
    (by decide) rfl
  exact ⟨_, rfl, again false, back false⟩

end Overlay
