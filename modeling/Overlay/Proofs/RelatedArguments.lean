import Mathlib.Data.List.Forall2
import Overlay.Proofs.AgreeingRuns
import Overlay.Proofs.MergeOutcome

namespace Overlay

/-- The same names in the same order, with related values. -/
def Entries.Related {α β : Type} (r : α → β → Prop) (first : Entries α) (second : Entries β) : Prop :=
  List.Forall₂ (fun entry other => entry.1 = other.1 ∧ r entry.2 other.2) first second

namespace Entries

variable {α β : Type} {r : α → β → Prop} {first : Entries α} {second : Entries β}

theorem Related.keys (related : Related r first second) : first.keys = second.keys := by
  induction related with
  | nil => rfl
  | cons here _ ih => exact List.cons_eq_cons.mpr ⟨here.1, ih⟩

theorem Related.get? (related : Related r first second) (name : String) :
    Option.Rel r (first.get? name) (second.get? name) := by
  induction related with
  | nil => exact .none
  | @cons entry other _ _ here _ ih =>
    obtain ⟨key, value⟩ := entry
    obtain ⟨otherKey, otherValue⟩ := other
    obtain ⟨rfl, holds⟩ := here
    rw [get?_cons, get?_cons]
    by_cases same : key = name
    · rw [if_pos same, if_pos same]
      exact .some holds
    · rw [if_neg same, if_neg same]
      exact ih

theorem Related.insert (related : Related r first second) (name : String) {value : α} {other : β}
    (holds : r value other) : Related r (first.insert name value) (second.insert name other) := by
  induction related with
  | nil => exact .cons ⟨rfl, holds⟩ .nil
  | @cons entry another _ _ here later ih =>
    obtain ⟨key, old⟩ := entry
    obtain ⟨otherKey, otherOld⟩ := another
    obtain ⟨rfl, oldHolds⟩ := here
    rw [Entries.insert, Entries.insert]
    by_cases same : key = name
    · rw [if_pos same, if_pos same]
      exact .cons ⟨rfl, holds⟩ later
    · rw [if_neg same, if_neg same]
      exact .cons ⟨rfl, oldHolds⟩ ih

theorem related_refl {r : α → α → Prop} (refl : ∀ value, r value value) (entries : Entries α) :
    Related r entries entries :=
  List.forall₂_same.mpr fun entry _ => ⟨rfl, refl entry.2⟩

theorem Related.eq {first second : Entries α} (related : Related (· = ·) first second) : first = second := by
  rw [← List.forall₂_eq_eq_eq]
  exact related.imp fun _ _ same => Prod.ext same.1 same.2

/-- Entries with the same names are related if what they have under each name
is. -/
theorem related_of_mem (sameKeys : first.keys = second.keys)
    (each : ∀ name value other, (name, value) ∈ first → (name, other) ∈ second → r value other) :
    Related r first second := by
  induction first generalizing second with
  | nil =>
    cases second with
    | nil => exact .nil
    | cons _ _ => cases sameKeys
  | cons entry rest ih =>
    cases second with
    | nil => cases sameKeys
    | cons other others =>
      obtain ⟨sameKey, sameRest⟩ := List.cons_eq_cons.mp sameKeys
      refine .cons ⟨sameKey, ?_⟩ (ih sameRest ?_)
      · exact each entry.1 entry.2 other.2 List.mem_cons_self (sameKey ▸ List.mem_cons_self)
      · intro name value another inRest inOthers
        exact each name value another (List.mem_cons_of_mem _ inRest) (List.mem_cons_of_mem _ inOthers)

/-- Distinct names in one order, with one value under each of them, leave no
choice. -/
theorem eq_of_get? {first second : Entries α} (sameKeys : first.keys = second.keys) (distinct : first.keys.Nodup)
    (same : ∀ name value, first.get? name = some value → second.get? name = some value) : first = second := by
  refine Related.eq (related_of_mem sameKeys fun name value other inFirst inSecond => ?_)
  have found := same name value (get?_of_mem distinct inFirst)
  exact Option.some.inj (found.symm.trans (get?_of_mem (sameKeys ▸ distinct) inSecond))

end Entries

namespace Merge

variable {r : Value → Value → Prop} {file other : Arguments}

/-- Whether a file gives a key a value depends on the kind of what it has there,
and related values are of one kind. -/
theorem given?_related (kinds : ∀ v w, r v w → v.kind = w.kind) (related : Entries.Related r file other)
    (key : String) : Option.Rel r (given? file key) (given? other key) := by
  have found := related.get? key
  rw [given?, given?]
  generalize file.get? key = inFile at found ⊢
  generalize other.get? key = inOther at found ⊢
  cases found with
  | none => exact .none
  | @some value another holds =>
    have sameNull : value.isNull = another.isNull := by
      rw [Bool.eq_iff_iff, Value.isNull_iff_kind, Value.isNull_iff_kind, kinds value another holds]
    rw [Option.filter_some, Option.filter_some, sameNull]
    cases another.isNull with
    | true => exact .none
    | false => exact .some holds

/-- Overriding a baseline by related files agrees: the same clash is found
first, or the results are related. -/
theorem override_agree (related : Entries.Related r file other) (refl : ∀ value, r value value)
    (kinds : ∀ v w, r v w → v.kind = w.kind) (baseline : Arguments) :
    Run.Agree (Entries.Related r) (override file baseline) (override other baseline) := by
  induction baseline with
  | nil => exact Run.agree_pure .nil
  | cons entry rest ih =>
    obtain ⟨key, old⟩ := entry
    have given := given?_related kinds related key
    rw [override_cons, override_cons]
    generalize given? file key = inFile at given ⊢
    generalize given? other key = inOther at given ⊢
    cases given with
    | none => exact ih.bind fun _ _ later => Run.agree_pure (.cons ⟨rfl, refl old⟩ later)
    | @some value another holds =>
      simp only [kinds value another holds]
      by_cases same : another.kind = old.kind
      · rw [if_pos same, if_pos same]
        exact (Run.agree_note _).bind fun _ _ _ => ih.bind fun _ _ later => Run.agree_pure (.cons ⟨rfl, holds⟩ later)
      · rw [if_neg same, if_neg same]
        exact Run.agree_fail _

/-- Only the keys of a file count for whether they are known. -/
theorem checkKnown_congr (baseline : Arguments) (ignoreUnknown : Bool) (sameKeys : file.keys = other.keys) :
    checkKnown baseline ignoreUnknown file = checkKnown baseline ignoreUnknown other := by
  induction file generalizing other with
  | nil =>
    cases other with
    | nil => rfl
    | cons _ _ => cases sameKeys
  | cons entry rest ih =>
    cases other with
    | nil => cases sameKeys
    | cons another others =>
      obtain ⟨key, value⟩ := entry
      obtain ⟨otherKey, otherValue⟩ := another
      obtain ⟨rfl, sameRest⟩ := List.cons_eq_cons.mp sameKeys
      rw [checkKnown, checkKnown, ih sameRest]

/-- Files with the same keys, in which the values are related, are merged alike.
-/
theorem merge_agree (related : Entries.Related r file other) (refl : ∀ value, r value value)
    (kinds : ∀ v w, r v w → v.kind = w.kind) (baseline : Arguments) (ignoreUnknown : Bool) :
    Run.Agree (Entries.Related r) (merge file baseline ignoreUnknown) (merge other baseline ignoreUnknown) := by
  rw [merge, merge, checkKnown_congr baseline ignoreUnknown related.keys]
  exact (override_agree related refl kinds baseline).bind fun _ _ merged =>
    (Run.agree_self _).bind fun _ _ _ => Run.agree_pure merged

end Merge

end Overlay
