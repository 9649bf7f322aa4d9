import Mathlib.Logic.Relation
import Overlay.Proofs.EqualValues
import Overlay.Proofs.RelatedLists

namespace Overlay

/-- Equality of floats in three parts: neither is a NaN, and they are the same
or both a zero. From this form its symmetry and transitivity are read off. -/
theorem Double.equal_iff {x y : Double} :
    x.equal y = true ↔ x.isNaN = false ∧ y.isNaN = false ∧ (x = y ∨ x.isZero = true ∧ y.isZero = true) := by
  simp [equal, and_assoc]

theorem Double.equal_symm {x y : Double} (same : x.equal y = true) : y.equal x = true := by
  obtain ⟨number, otherNumber, equal⟩ := equal_iff.mp same
  exact equal_iff.mpr ⟨otherNumber, number, equal.imp Eq.symm And.symm⟩

theorem Double.equal_trans {x y z : Double} (first : x.equal y = true) (second : y.equal z = true) :
    x.equal z = true := by
  obtain ⟨number, _, equal⟩ := equal_iff.mp first
  obtain ⟨_, otherNumber, equalAgain⟩ := equal_iff.mp second
  refine equal_iff.mpr ⟨number, otherNumber, ?_⟩
  rcases equal with rfl | ⟨zero, otherZero⟩
  · exact equalAgain
  · rcases equalAgain with rfl | ⟨_, lastZero⟩
    · exact Or.inr ⟨zero, otherZero⟩
    · exact Or.inr ⟨zero, lastZero⟩

namespace Value

variable {a b c : Value}

/-- Equal values are of one kind. In particular an integer is not equal to a
float with the same number. -/
theorem kind_eq_of_equal (same : a.equal b = true) : a.kind = b.kind := by
  revert same
  cases a <;> cases b <;> simp [equal, kind]

/-- Symmetry needs that the names of the left value are distinct: the comparison
looks up every entry of the left in the right and compares their numbers, so
that with distinct names on the left all entries of the right are met. -/
theorem equal_symm (distinct : a.namesDistinct = true) (same : a.equal b = true) : b.equal a = true := by
  induction a using memberInduction generalizing b with
  | null =>
    cases b <;> cases kind_eq_of_equal same
    exact same
  | bool | integer | string =>
    cases b <;> cases kind_eq_of_equal same
    rw [equal, beq_iff_eq] at same ⊢
    exact same.symm
  | float x =>
    cases b <;> cases kind_eq_of_equal same
    exact Double.equal_symm same
  | sequence items ih =>
    cases b <;> cases kind_eq_of_equal same
    have inner := namesDistinct_sequence_iff.mp distinct
    have each := forall₂_imp_of_mem (equal_sequence_iff.mp same) fun item member _ here =>
      ih item member (inner item member) here
    exact equal_sequence_iff.mpr each.flip
  | mapping entries ih =>
    cases b <;> cases kind_eq_of_equal same
    rename_i others
    obtain ⟨keys, inner⟩ := namesDistinct_mapping_iff.mp distinct
    obtain ⟨length, each⟩ := equal_mapping_iff.mp same
    -- as many names, all of them found on the other side: none of the other side is missing here
    have among : ∀ name ∈ entries.keys, name ∈ Entries.keys others := by
      intro name member
      obtain ⟨entry, inEntries, rfl⟩ := List.mem_map.mp member
      obtain ⟨other, found, _⟩ := each entry inEntries
      exact Entries.mem_keys_iff_get?.mpr ⟨other, found⟩
    have order := Entries.keys_perm_of_subset keys length among
    refine equal_mapping_iff.mpr ⟨length.symm, fun other member => ?_⟩
    obtain ⟨entry, inEntries, sameName⟩ := List.mem_map.mp (order.mem_iff.mpr (List.mem_map_of_mem member))
    obtain ⟨value, found, here⟩ := each entry inEntries
    rw [sameName, Entries.get?_of_mem (order.nodup_iff.mp keys) member] at found
    cases found
    exact ⟨entry.2, sameName ▸ Entries.get?_of_mem keys inEntries, ih entry inEntries (inner entry inEntries) here⟩

/-- Transitivity needs no condition on the names, since every look-up of the
second comparison starts from an entry that the first one found. -/
theorem equal_trans (first : a.equal b = true) (second : b.equal c = true) : a.equal c = true := by
  induction a using memberInduction generalizing b c with
  | null =>
    cases b <;> cases kind_eq_of_equal first
    exact second
  | bool | integer | string =>
    cases b <;> cases kind_eq_of_equal first
    rw [equal, beq_iff_eq] at first
    exact first ▸ second
  | float x =>
    cases b <;> cases kind_eq_of_equal first
    cases c <;> cases kind_eq_of_equal second
    exact Double.equal_trans first second
  | sequence items ih =>
    cases b <;> cases kind_eq_of_equal first
    cases c <;> cases kind_eq_of_equal second
    have each := exists_forall₂_iff.mp ⟨_, equal_sequence_iff.mp first, equal_sequence_iff.mp second⟩
    refine equal_sequence_iff.mpr (forall₂_imp_of_mem each fun item member last between => ?_)
    obtain ⟨other, here, there⟩ := between
    exact ih item member here there
  | mapping entries ih =>
    cases b <;> cases kind_eq_of_equal first
    cases c <;> cases kind_eq_of_equal second
    obtain ⟨length, each⟩ := equal_mapping_iff.mp first
    obtain ⟨otherLength, eachAgain⟩ := equal_mapping_iff.mp second
    refine equal_mapping_iff.mpr ⟨length.trans otherLength, fun entry member => ?_⟩
    obtain ⟨other, found, here⟩ := each entry member
    obtain ⟨last, foundAgain, there⟩ := eachAgain _ (Entries.mem_of_get? found)
    exact ⟨last, foundAgain, ih entry member here there⟩

/-- Two values differ in the order of the entries of one mapping, at whatever
depth it is. -/
inductive Reordered : Value → Value → Prop
  | here {entries others : Arguments} : entries.Perm others → Reordered (.mapping entries) (.mapping others)
  | item {before after : List Value} {item other : Value} : Reordered item other →
      Reordered (.sequence (before ++ item :: after)) (.sequence (before ++ other :: after))
  | entry {before after : Arguments} {name : String} {value other : Value} : Reordered value other →
      Reordered (.mapping (before ++ (name, value) :: after)) (.mapping (before ++ (name, other) :: after))

/-- A reordering moves entries and changes no leaf. -/
theorem Reordered.hasNaN_eq (reordered : Reordered a b) : a.hasNaN = b.hasNaN := by
  rw [Bool.eq_iff_iff]
  induction reordered with
  | here order => simp only [hasNaN_mapping_iff, order.mem_iff]
  | item _ ih => simp [hasNaN_sequence_iff, or_and_right, exists_or, ih]
  | entry _ ih => simp [hasNaN_mapping_iff, or_and_right, exists_or, ih]

/-- Nor does it change which names stand in a mapping. -/
theorem Reordered.namesDistinct_eq (reordered : Reordered a b) : a.namesDistinct = b.namesDistinct := by
  rw [Bool.eq_iff_iff]
  induction reordered with
  | here order => simp only [namesDistinct_mapping_iff, Entries.keys, (order.map Prod.fst).nodup_iff, order.mem_iff]
  | item _ ih => simp [namesDistinct_sequence_iff, or_imp, forall_and, ih]
  | entry _ ih => simp [namesDistinct_mapping_iff, Entries.keys, or_imp, forall_and, ih]

/-- A value that is equal to itself is so in every order of its entries. -/
theorem Reordered.equal (reordered : Reordered a b) (distinct : a.namesDistinct = true) (self : a.equal a = true) :
    a.equal b = true := by
  have distinctAfter := reordered.namesDistinct_eq.symm.trans distinct
  induction reordered with
  | here order =>
    obtain ⟨keys, _⟩ := namesDistinct_mapping_iff.mp distinct
    obtain ⟨_, each⟩ := equal_mapping_iff.mp self
    refine equal_mapping_iff.mpr ⟨order.length_eq, fun entry member => ?_⟩
    rw [← Entries.get?_perm order keys]
    exact each entry member
  | @item before after item other _ ih =>
    have inner := namesDistinct_sequence_iff.mp distinct
    have innerAfter := namesDistinct_sequence_iff.mp distinctAfter
    have each := List.forall₂_same.mp (equal_sequence_iff.mp self)
    have here := ih (inner item (by simp)) (each item (by simp)) (innerAfter other (by simp))
    have same : ∀ rest ⊆ before ++ item :: after, List.Forall₂ (fun v w => v.equal w = true) rest rest :=
      fun rest within => List.forall₂_same.mpr fun v member => each v (within member)
    exact equal_sequence_iff.mpr (List.rel_append (same before (by simp)) (.cons here (same after (by simp))))
  | @entry before after name value other _ ih =>
    obtain ⟨keys, inner⟩ := namesDistinct_mapping_iff.mp distinct
    obtain ⟨keysAfter, innerAfter⟩ := namesDistinct_mapping_iff.mp distinctAfter
    have each : ∀ entry ∈ before ++ (name, value) :: after, entry.2.equal entry.2 = true := by
      intro entry member
      obtain ⟨found, atName, same⟩ := (equal_mapping_iff.mp self).2 entry member
      cases atName.symm.trans (Entries.get?_of_mem keys member)
      exact same
    refine equal_mapping_iff.mpr ⟨by simp, fun entry member => ?_⟩
    by_cases changed : entry = (name, value)
    · subst changed
      have here := ih (inner _ member) (each _ member) (innerAfter (name, other) (by simp))
      exact ⟨other, Entries.get?_of_mem keysAfter (by simp), here⟩
    · have kept : entry ∈ before ++ (name, other) :: after := by
        simp only [List.mem_append, List.mem_cons, changed, false_or] at member ⊢
        exact member.imp_right Or.inr
      exact ⟨entry.2, Entries.get?_of_mem keysAfter kept, each entry member⟩

/-- Several reorderings one after the other. The two conditions are kept by each
of them, and so they are part of the statement that is proved by induction. -/
theorem equal_of_reordered (reordered : Relation.ReflTransGen Reordered a b) (distinct : a.namesDistinct = true)
    (noNaN : a.hasNaN = false) : a.equal b = true ∧ b.namesDistinct = true ∧ b.hasNaN = false := by
  induction reordered with
  | refl => exact ⟨(equal_self_iff distinct).mpr noNaN, distinct, noNaN⟩
  | tail _ last ih =>
    obtain ⟨before, distinct, noNaN⟩ := ih
    have same := last.equal distinct ((equal_self_iff distinct).mpr noNaN)
    exact ⟨equal_trans before same, last.namesDistinct_eq.symm.trans distinct, last.hasNaN_eq.symm.trans noNaN⟩

theorem equal_sequence_iff_getElem {items others : List Value} :
    (Value.sequence items).equal (.sequence others) = true ↔ items.length = others.length ∧
      ∀ (i : Nat) (here : i < items.length) (there : i < others.length), items[i].equal others[i] = true := by
  rw [equal_sequence_iff, List.forall₂_iff_get]
  rfl

/-- Equality is symmetric and transitive, and only values of one kind are equal.
A value is equal to itself unless a NaN is in it, and then also to itself with
the entries of its mappings in other orders; of a sequence the order counts. -/
theorem equal_partial_equivalence (distinct : a.namesDistinct = true) :
    (∀ b, a.equal b = true → b.equal a = true ∧ a.kind = b.kind) ∧
    (∀ b c, a.equal b = true → b.equal c = true → a.equal c = true) ∧
    (a.equal a = true ↔ a.hasNaN = false) ∧
    (∀ b, Relation.ReflTransGen Reordered a b → a.hasNaN = false → a.equal b = true) ∧
    ∀ items others, (Value.sequence items).equal (.sequence others) = true ↔ items.length = others.length ∧
      ∀ (i : Nat) (here : i < items.length) (there : i < others.length), items[i].equal others[i] = true :=
  ⟨fun _ same => ⟨equal_symm distinct same, kind_eq_of_equal same⟩, fun _ _ => equal_trans, equal_self_iff distinct,
    fun _ reordered noNaN => (equal_of_reordered reordered distinct noNaN).1, fun _ _ => equal_sequence_iff_getElem⟩

/-- A mapping with both zeros, and another mapping inside. -/
def twoZeros : Value := .sequence [.null, .mapping [("a", .float (.zero false)), ("b", .float (.zero true))]]

/-- The same with the entries of both mappings in another order and the zeros
exchanged. -/
def twoZerosSwapped : Value := .sequence [.null, .mapping [("b", .float (.zero true)), ("a", .float (.zero false))]]

theorem equal_partial_equivalence_twoZeros : twoZeros.namesDistinct = true ∧
    twoZeros.equal twoZerosSwapped = true ∧ twoZerosSwapped.equal twoZeros = true := by
  have distinct : twoZeros.namesDistinct = true := by decide
  obtain ⟨symmetric, _, _, reorders, _⟩ := equal_partial_equivalence distinct
  have order : Reordered twoZeros twoZerosSwapped := @Reordered.item [.null] [] _ _ (.here (.swap ..))
  have same := reorders _ (.single order) (by decide)
  exact ⟨distinct, same, (symmetric _ same).1⟩

end Value

end Overlay
