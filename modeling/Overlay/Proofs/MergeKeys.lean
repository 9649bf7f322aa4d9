import Mathlib.Data.List.TakeWhile
import Overlay.Proofs.SameKeys
import Overlay.Proofs.Success
import Overlay.Yaml.MergeKey

namespace Overlay.Yaml.Tree

/-- The value of a merge key offers a mapping: it is that mapping, or a sequence
that holds it. -/
inductive Offers (source : List (Tree × Tree)) : Tree → Prop
  | single : Offers source (.mapping source)
  | several {items : List Tree} : .mapping source ∈ items → Offers source (.sequence items)

/-- The merge key of some entries asks to merge a mapping into them. -/
def MergesIn (entries source : List (Tree × Tree)) : Prop :=
  ∃ key value, (key, value) ∈ entries ∧ key.isMergeKey = true ∧ Offers source value

/-- No two entries have the same key. -/
def KeysApart (entries : List (Tree × Tree)) : Prop :=
  entries.Pairwise fun earlier later => later.1.same earlier.1 = false

/-- The entries of a mapping other than its merge key, in the order in which the
merged ones find them. -/
def explicitEntries (entries : List (Tree × Tree)) : List (Tree × Tree) :=
  match takeMergeKey entries with
  | none => entries
  | some (_, others) => others

/-- The entries that the merge key of a mapping brings in. -/
def addedEntries (entries : List (Tree × Tree)) : List (Tree × Tree) :=
  match mergeEntries entries with
  | .ok merged => merged.drop (explicitEntries entries).length
  | .error _ => []

theorem isMergeKey_iff {key : Tree} : key.isMergeKey = true ↔ key = .string "<<" := by
  cases key <;> simp [isMergeKey]

theorem takeMergeKey_eq_none {entries : List (Tree × Tree)} (absent : takeMergeKey entries = none) :
    ∀ entry ∈ entries, entry.1.isMergeKey = false := by
  intro entry member
  unfold takeMergeKey at absent
  split at absent
  · rename_i empty
    simpa using List.dropWhile_eq_nil_iff.mp empty entry member
  · split at absent <;> cases absent

/-- Taking the merge key out takes the first one, and what is left is the rest
of the entries in some order: the last entry may have moved into its place. -/
theorem takeMergeKey_eq_some {entries others : List (Tree × Tree)} {value : Tree}
    (taken : takeMergeKey entries = some (value, others)) :
    ∃ before key after, entries = before ++ (key, value) :: after ∧ key.isMergeKey = true ∧
      (∀ entry ∈ before, entry.1.isMergeKey = false) ∧ others.Perm (before ++ after) := by
  have whole := List.takeWhile_append_dropWhile (p := fun entry : Tree × Tree => !entry.1.isMergeKey) (l := entries)
  have before : ∀ entry ∈ entries.takeWhile fun entry => !entry.1.isMergeKey, entry.1.isMergeKey = false := by
    intro entry member
    simpa using List.mem_takeWhile_imp member
  have first := List.head?_dropWhile_not (fun entry : Tree × Tree => !entry.1.isMergeKey) entries
  unfold takeMergeKey at taken
  split at taken
  · cases taken
  · rename_i key found after rest
    rw [rest] at whole first
    have isKey : key.isMergeKey = true := by simpa using first
    split at taken
    · rename_i last
      cases taken
      refine ⟨_, key, after, whole.symm, isKey, before, ?_⟩
      rw [List.getLast?_eq_none_iff.mp last, List.append_nil]
    · rename_i last atEnd
      cases taken
      refine ⟨_, key, after, whole.symm, isKey, before, List.Perm.append_left _ ?_⟩
      have moved : (last :: after.dropLast).Perm (after.dropLast ++ [last]) :=
        (List.perm_append_singleton last after.dropLast).symm
      rwa [List.dropLast_append_getLast? last atEnd] at moved

theorem mem_explicitEntries {entries : List (Tree × Tree)} {entry : Tree × Tree}
    (member : entry ∈ explicitEntries entries) : entry ∈ entries := by
  unfold explicitEntries at member
  split at member
  · exact member
  · rename_i value others taken
    obtain ⟨before, key, after, whole, _, _, order⟩ := takeMergeKey_eq_some taken
    rw [whole]
    rcases List.mem_append.mp (order.mem_iff.mp member) with early | late
    · exact List.mem_append_left _ early
    · exact List.mem_append_right _ (List.mem_cons_of_mem _ late)

/-- Every entry without a merge key is explicit. -/
theorem mem_explicitEntries_of_mem {entries : List (Tree × Tree)} {entry : Tree × Tree} (member : entry ∈ entries)
    (other : entry.1.isMergeKey = false) : entry ∈ explicitEntries entries := by
  unfold explicitEntries
  split
  · exact member
  · rename_i value others taken
    obtain ⟨before, key, after, rfl, isKey, _, order⟩ := takeMergeKey_eq_some taken
    refine order.mem_iff.mpr ?_
    rcases List.mem_append.mp member with early | here
    · exact List.mem_append_left after early
    rcases List.mem_cons.mp here with rfl | late
    · rw [isKey] at other
      cases other
    · exact List.mem_append_right before late

/-- A mapping has a key if one of its entries has the same one, in the sense in
which two nodes are the same. -/
theorem hasKey_iff {entries : List (Tree × Tree)} {key : Tree} :
    hasKey entries key = true ↔ ∃ entry ∈ entries, key.same entry.1 = true := List.any_eq_true

theorem hasKey_append_left {entries : List (Tree × Tree)} {key : Tree} (present : hasKey entries key = true)
    (more : List (Tree × Tree)) : hasKey (entries ++ more) key = true := by
  obtain ⟨entry, member, same⟩ := hasKey_iff.mp present
  exact hasKey_iff.mpr ⟨entry, List.mem_append_left _ member, same⟩

theorem absorb_append (entries first second : List (Tree × Tree)) :
    absorb entries (first ++ second) = absorb (absorb entries first) second := by
  induction first generalizing entries with
  | nil => rfl
  | cons entry rest ih => rw [List.cons_append, absorb, absorb, ih]

/-- Absorbing sources one after the other is absorbing all their entries, so the
earlier source goes before the later. -/
theorem foldl_absorb (entries : List (Tree × Tree)) (sources : List (List (Tree × Tree))) :
    sources.foldl absorb entries = absorb entries sources.flatten := by
  induction sources generalizing entries with
  | nil => rfl
  | cons source rest ih => rw [List.foldl_cons, ih, List.flatten_cons, absorb_append]

/-- Absorbed entries come behind those that are there, none of which has their
keys; in the end no offered key is missing. -/
theorem absorb_spec (entries offered : List (Tree × Tree)) :
    ∃ added, absorb entries offered = entries ++ added ∧
      (∀ entry ∈ added, entry ∈ offered ∧ hasKey entries entry.1 = false) ∧
      ∀ entry ∈ offered, hasKey (entries ++ added) entry.1 = true := by
  induction offered generalizing entries with
  | nil => exact ⟨[], by simp [absorb]⟩
  | cons entry rest ih =>
    cases present : hasKey entries entry.1 with
    | true =>
      obtain ⟨added, merged, fresh, complete⟩ := ih entries
      refine ⟨added, by rw [absorb, if_pos present, merged], ?_, ?_⟩
      · intro other member
        exact ⟨List.mem_cons_of_mem _ (fresh other member).1, (fresh other member).2⟩
      · intro other member
        rcases List.mem_cons.mp member with rfl | later
        · exact hasKey_append_left present added
        · exact complete other later
    | false =>
      -- the rest is absorbed by the longer list, so that a later entry of the same key is passed over
      obtain ⟨added, merged, fresh, complete⟩ := ih (entries ++ [entry])
      have reassoc : entries ++ [entry] ++ added = entries ++ entry :: added := by simp
      rw [reassoc] at merged complete
      refine ⟨entry :: added, by rw [absorb, present, if_neg Bool.false_ne_true, merged], ?_, ?_⟩
      · intro other member
        rcases List.mem_cons.mp member with rfl | later
        · exact ⟨List.mem_cons_self, present⟩
        · obtain ⟨inRest, absent⟩ := fresh other later
          refine ⟨List.mem_cons_of_mem _ inRest, Bool.eq_false_iff.mpr fun found => ?_⟩
          rw [hasKey_append_left found [entry]] at absent
          cases absent
      · intro other member
        rcases List.mem_cons.mp member with rfl | later
        · exact hasKey_iff.mpr ⟨other, by simp, same_self other.1⟩
        · exact complete other later

theorem mergeItem_eq_ok {item : Tree} {source : List (Tree × Tree)} (success : mergeItem item = .ok source) :
    item = .mapping source := by
  cases item with
  | mapping entries => exact congrArg Tree.mapping (Except.ok.inj success)
  | _ => cases success

/-- The mappings to merge are those that the value of the merge key offers. -/
theorem mem_mergeSources {value : Tree} {sources : List (List (Tree × Tree))}
    (success : mergeSources value = .ok sources) {source : List (Tree × Tree)} :
    source ∈ sources ↔ Offers source value := by
  cases value with
  | sequence items =>
    have each : List.Forall₂ (fun item source => item = .mapping source) items sources :=
      (mapM_eq_ok_iff.mp success).imp fun _ _ => mergeItem_eq_ok
    rw [← List.forall₂_map_right_iff, List.forall₂_eq_eq_eq] at each
    subst each
    constructor
    · exact fun member => .several (List.mem_map_of_mem member)
    · rintro (_ | ⟨member⟩)
      obtain ⟨found, inSources, same⟩ := List.mem_map.mp member
      exact Tree.mapping.inj same ▸ inSources
  | mapping entries =>
    cases success
    rw [List.mem_singleton]
    constructor
    · rintro rfl
      exact .single
    · rintro (_ | _)
      rfl
  | _ => cases success

/-- A merge leaves the explicit entries in front; what comes behind them has
other keys and stems from the mappings that are merged in. -/
theorem mergeEntries_eq_ok {entries merged : List (Tree × Tree)} (success : mergeEntries entries = .ok merged) :
    merged = explicitEntries entries ++ addedEntries entries ∧
      ∀ entry ∈ addedEntries entries, hasKey (explicitEntries entries) entry.1 = false ∧
        ∃ source, MergesIn entries source ∧ entry ∈ source := by
  have found : ∃ added, merged = explicitEntries entries ++ added ∧
      ∀ entry ∈ added, hasKey (explicitEntries entries) entry.1 = false ∧
        ∃ source, MergesIn entries source ∧ entry ∈ source := by
    unfold mergeEntries at success
    split at success
    · rename_i absent
      cases success
      exact ⟨[], by simp [explicitEntries, absent]⟩
    · rename_i value others taken
      obtain ⟨before, key, after, whole, isKey, _⟩ := takeMergeKey_eq_some taken
      obtain ⟨sources, offered, rfl⟩ := exceptMap_eq_ok_iff.mp success
      obtain ⟨added, merged, fresh, _⟩ := absorb_spec others sources.flatten
      simp only [explicitEntries, taken]
      refine ⟨added, by rw [foldl_absorb, merged], fun entry member => ⟨(fresh entry member).2, ?_⟩⟩
      obtain ⟨source, inSources, inSource⟩ := List.mem_flatten.mp (fresh entry member).1
      have here : (key, value) ∈ entries := whole ▸ List.mem_append_right before List.mem_cons_self
      exact ⟨source, ⟨key, value, here, isKey, (mem_mergeSources offered).mp inSources⟩, inSource⟩
  obtain ⟨added, rfl, stems⟩ := found
  have same : addedEntries entries = added := by
    rw [addedEntries, success]
    exact List.drop_left
  rw [same]
  exact ⟨rfl, stems⟩

theorem KeysApart.mergeKey_unique {before after : List (Tree × Tree)} {key value : Tree}
    (apart : KeysApart (before ++ (key, value) :: after)) (isKey : key.isMergeKey = true) :
    ∀ entry ∈ after, entry.1.isMergeKey = false := by
  intro entry late
  have different := List.rel_of_pairwise_cons (List.pairwise_append.mp apart).2.1 late
  refine Bool.eq_false_iff.mpr fun again => ?_
  rw [isMergeKey_iff.mp again, isMergeKey_iff.mp isKey, same_self] at different
  cases different

theorem KeysApart.explicit_not_mergeKey {entries : List (Tree × Tree)} (apart : KeysApart entries) :
    ∀ entry ∈ explicitEntries entries, entry.1.isMergeKey = false := by
  intro entry member
  unfold explicitEntries at member
  split at member
  · rename_i absent
    exact takeMergeKey_eq_none absent entry member
  · rename_i value others taken
    obtain ⟨before, key, after, rfl, isKey, ordinary, order⟩ := takeMergeKey_eq_some taken
    rcases List.mem_append.mp (order.mem_iff.mp member) with early | late
    · exact ordinary entry early
    · exact apart.mergeKey_unique isKey entry late

/-- With distinct keys the merge key that is carried out is the only one. -/
theorem KeysApart.takeMergeKey {entries : List (Tree × Tree)} {key value : Tree} (apart : KeysApart entries)
    (member : (key, value) ∈ entries) (isKey : key.isMergeKey = true) :
    ∃ others, takeMergeKey entries = some (value, others) := by
  cases taken : Tree.takeMergeKey entries with
  | none =>
    rw [takeMergeKey_eq_none taken (key, value) member] at isKey
    cases isKey
  | some found =>
    obtain ⟨first, others⟩ := found
    obtain ⟨before, firstKey, after, rfl, firstIsKey, ordinary, _⟩ := takeMergeKey_eq_some taken
    rcases List.mem_append.mp member with early | here
    · rw [ordinary (key, value) early] at isKey
      cases isKey
    rcases List.mem_cons.mp here with same | late
    · cases same
      exact ⟨others, rfl⟩
    · rw [apart.mergeKey_unique firstIsKey (key, value) late] at isKey
      cases isKey

/-- A merge leaves an entry where it is if its value is nothing to merge. -/
theorem KeysApart.mem_of_no_source {entries merged : List (Tree × Tree)} (apart : KeysApart entries)
    (success : mergeEntries entries = .ok merged) {key item : Tree} (member : (key, item) ∈ entries)
    (noSource : ∀ sources, mergeSources item ≠ .ok sources) : (key, item) ∈ merged := by
  have explicit : key.isMergeKey = false := by
    refine Bool.eq_false_iff.mpr fun isKey => ?_
    obtain ⟨others, taken⟩ := apart.takeMergeKey member isKey
    rw [mergeEntries, taken] at success
    obtain ⟨sources, offered, _⟩ := exceptMap_eq_ok_iff.mp success
    exact noSource sources offered
  obtain ⟨rfl, _⟩ := mergeEntries_eq_ok success
  exact List.mem_append_left _ (mem_explicitEntries_of_mem member explicit)

/-- A merge leaves out no key of the mappings that are merged in. -/
theorem KeysApart.hasKey_of_mergesIn {entries source merged : List (Tree × Tree)} (apart : KeysApart entries)
    (success : mergeEntries entries = .ok merged) (mergesIn : MergesIn entries source) {entry : Tree × Tree}
    (member : entry ∈ source) : hasKey merged entry.1 = true := by
  obtain ⟨key, value, inEntries, isKey, offers⟩ := mergesIn
  obtain ⟨others, taken⟩ := apart.takeMergeKey inEntries isKey
  rw [mergeEntries, taken] at success
  obtain ⟨sources, offered, rfl⟩ := exceptMap_eq_ok_iff.mp success
  obtain ⟨added, absorbed, _, complete⟩ := absorb_spec others sources.flatten
  rw [foldl_absorb, absorbed]
  exact complete entry (List.mem_flatten.mpr ⟨source, (mem_mergeSources offered).mpr offers, member⟩)

/-- What holds of a mapping and passes on to its parts holds of the values that
a merge brings in. -/
theorem of_mem_mergeEntries {p : Tree → Prop} (ofItem : ∀ {items}, p (.sequence items) → ∀ item ∈ items, p item)
    (ofEntry : ∀ {entries}, p (.mapping entries) → ∀ entry ∈ entries, p entry.2)
    {entries merged : List (Tree × Tree)} (success : mergeEntries entries = .ok merged) {entry : Tree × Tree}
    (member : entry ∈ merged) (holds : p (.mapping entries)) : p entry.2 := by
  obtain ⟨rfl, stems⟩ := mergeEntries_eq_ok success
  rcases List.mem_append.mp member with explicit | inAdded
  · exact ofEntry holds entry (mem_explicitEntries explicit)
  · obtain ⟨_, source, ⟨key, value, inEntries, _, offers⟩, inSource⟩ := stems entry inAdded
    have atValue : p value := ofEntry holds (key, value) inEntries
    cases offers with
    | single => exact ofEntry atValue entry inSource
    | several inItems => exact ofEntry (ofItem atValue _ inItems) entry inSource

end Overlay.Yaml.Tree
