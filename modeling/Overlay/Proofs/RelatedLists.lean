import Mathlib.Data.List.Forall2

namespace Overlay

variable {α β γ : Type} {r : α → β → Prop}

/-- In lists that are related member by member, every member of the one has a
partner in the other. -/
theorem exists_right_of_forall₂ {xs : List α} {ys : List β} (related : List.Forall₂ r xs ys) {x : α} (member : x ∈ xs) :
    ∃ y ∈ ys, r x y := by
  induction related with
  | nil => cases member
  | cons here _ ih =>
    rcases List.mem_cons.mp member with rfl | later
    · exact ⟨_, List.mem_cons_self, here⟩
    · obtain ⟨y, inRest, holds⟩ := ih later
      exact ⟨y, List.mem_cons_of_mem _ inRest, holds⟩

theorem exists_left_of_forall₂ {xs : List α} {ys : List β} (related : List.Forall₂ r xs ys) {y : β} (member : y ∈ ys) :
    ∃ x ∈ xs, r x y :=
  exists_right_of_forall₂ related.flip member

/-- The relation between two lists may be replaced by one that follows from it
for the members of the first, of which more may be known than of others. -/
theorem forall₂_imp_of_mem {s : α → β → Prop} {xs : List α} {ys : List β} (related : List.Forall₂ r xs ys)
    (implies : ∀ x ∈ xs, ∀ y, r x y → s x y) : List.Forall₂ s xs ys := by
  induction related with
  | nil => exact .nil
  | cons here _ ih =>
    obtain ⟨first, rest⟩ := List.forall_mem_cons.mp implies
    exact .cons (first _ here) (ih rest)

/-- Members at the same place of related lists are related. -/
theorem related_of_getElem? {xs : List α} {ys : List β} (related : List.Forall₂ r xs ys) {i : Nat} {x : α} {y : β}
    (left : xs[i]? = some x) (right : ys[i]? = some y) : r x y := by
  induction related generalizing i with
  | nil => cases left
  | cons here _ ih =>
    cases i with
    | zero =>
      cases left
      cases right
      exact here
    | succ i => exact ih left right

theorem exists_index_of_forall₂ {xs : List α} {ys : List β} (related : List.Forall₂ r xs ys) {y : β}
    (member : y ∈ ys) : ∃ (i : Nat) (x : α), xs[i]? = some x ∧ ys[i]? = some y := by
  induction related with
  | nil => cases member
  | @cons x first _ _ _ _ ih =>
    rcases List.mem_cons.mp member with rfl | later
    · exact ⟨0, x, rfl, rfl⟩
    · obtain ⟨i, other, left, right⟩ := ih later
      exact ⟨i + 1, other, left, right⟩

/-- Where a list falls into two parts, so do the lists related to it. -/
theorem forall₂_append_left {front back : List α} {ys : List β} (related : List.Forall₂ r (front ++ back) ys) :
    ∃ fronts backs, ys = fronts ++ backs ∧ List.Forall₂ r front fronts ∧ List.Forall₂ r back backs := by
  induction front generalizing ys with
  | nil => exact ⟨[], ys, rfl, .nil, related⟩
  | cons x rest ih =>
    obtain ⟨y, others, here, later, rfl⟩ := List.forall₂_cons_left_iff.mp related
    obtain ⟨fronts, backs, rfl, inFront, inBack⟩ := ih later
    exact ⟨y :: fronts, backs, rfl, .cons here inFront, inBack⟩

theorem forall₂_append_right {fronts backs : List β} {xs : List α} (related : List.Forall₂ r xs (fronts ++ backs)) :
    ∃ front back, xs = front ++ back ∧ List.Forall₂ r front fronts ∧ List.Forall₂ r back backs := by
  obtain ⟨front, back, whole, inFront, inBack⟩ := forall₂_append_left related.flip
  exact ⟨front, back, whole, inFront.flip, inBack.flip⟩

/-- Going from one list to another by way of a third is to go from member to
member by way of one in between. With it the carrying out of merge keys and the
conversion become one relation between entries and pairs. -/
theorem exists_forall₂_iff {s : β → γ → Prop} {xs : List α} {zs : List γ} :
    (∃ ys, List.Forall₂ r xs ys ∧ List.Forall₂ s ys zs) ↔ List.Forall₂ (fun x z => ∃ y, r x y ∧ s y z) xs zs := by
  constructor
  · intro between
    obtain ⟨ys, first, second⟩ := between
    induction first generalizing zs with
    | nil =>
      cases second
      exact .nil
    | cons here _ ih =>
      obtain ⟨z, others, there, later, rfl⟩ := List.forall₂_cons_left_iff.mp second
      exact .cons ⟨_, here, there⟩ (ih later)
  · intro related
    induction related with
    | nil => exact ⟨[], .nil, .nil⟩
    | cons here _ ih =>
      obtain ⟨y, first, second⟩ := here
      obtain ⟨ys, firsts, seconds⟩ := ih
      exact ⟨y :: ys, .cons first firsts, .cons second seconds⟩

end Overlay
