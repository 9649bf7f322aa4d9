import Mathlib.Data.List.Forall2
import Overlay.Run

namespace Overlay

/-- Two computations in sequence succeed exactly if the first does and the
second does with what the first came to. With this lemma a computation is taken
apart step by step instead of being unfolded. -/
theorem exceptBind_eq_ok_iff {ε α β : Type} {first : Except ε α} {next : α → Except ε β} {result : β} :
    (first >>= next) = .ok result ↔ ∃ value, first = .ok value ∧ next value = .ok result := by
  cases first with
  | error failure =>
    constructor
    · intro impossible
      cases impossible
    · intro found
      obtain ⟨value, impossible, _⟩ := found
      cases impossible
  | ok value =>
    constructor
    · exact fun success => ⟨value, rfl, success⟩
    · intro found
      obtain ⟨_, same, success⟩ := found
      cases same
      exact success

theorem exceptMap_eq_ok_iff {ε α β : Type} {first : Except ε α} {f : α → β} {result : β} :
    first.map f = .ok result ↔ ∃ value, first = .ok value ∧ f value = result := by
  cases first <;> simp [Except.map]

/-- A computation on each item of a list succeeds with the list of what it gives
for the items. -/
theorem mapM_eq_ok_iff {ε α β : Type} {f : α → Except ε β} {items : List α} {results : List β} :
    items.mapM f = .ok results ↔ List.Forall₂ (fun item result => f item = .ok result) items results := by
  induction items generalizing results with
  | nil =>
    rw [List.mapM_nil, List.forall₂_nil_left_iff]
    exact ⟨fun same => (Except.ok.inj same).symm, fun same => congrArg Except.ok same.symm⟩
  | cons item rest ih =>
    rw [List.mapM_cons, exceptBind_eq_ok_iff, List.forall₂_cons_left_iff]
    constructor
    · intro succeeds
      obtain ⟨first, here, later⟩ := succeeds
      obtain ⟨others, success, same⟩ := exceptBind_eq_ok_iff.mp later
      exact ⟨first, others, here, ih.mp success, (Except.ok.inj same).symm⟩
    · intro pieces
      obtain ⟨first, others, here, later, rfl⟩ := pieces
      exact ⟨first, here, exceptBind_eq_ok_iff.mpr ⟨others, ih.mpr later, rfl⟩⟩

/-- Only the members of the list matter for what a function comes to on it. -/
theorem mapM_congr_left {ε α β : Type} {f g : α → Except ε β} {items : List α}
    (agree : ∀ item ∈ items, f item = g item) :
    items.mapM f = items.mapM g := by
  induction items with
  | nil => rfl
  | cons item rest ih =>
    rw [List.mapM_cons, List.mapM_cons, agree item List.mem_cons_self,
      ih fun item member => agree item (List.mem_cons_of_mem _ member)]

/-- The same for runs, where the notices play no part. -/
theorem Run.outcome_bind_eq_ok_iff {α β : Type} {run : Run α} {next : α → Run β} {result : β} :
    (run >>= next).outcome = .ok result ↔ ∃ value, run.outcome = .ok value ∧ (next value).outcome = .ok result := by
  rw [Run.outcome_bind]
  exact exceptBind_eq_ok_iff

namespace Run

variable {α β : Type} {run : Run α}

/-- Where the first of two computations succeeds, the notices of both stay, in
their order. -/
theorem notices_bind_of_ok {value : α} (success : run.outcome = .ok value) (next : α → Run β) :
    (run >>= next).notices = run.notices ++ (next value).notices := by
  obtain ⟨notices, outcome⟩ := run
  cases success
  rfl

/-- Where the first of two computations fails, its notices are all there are. -/
theorem notices_bind_of_error {failure : Failure} (failed : run.outcome = .error failure) (next : α → Run β) :
    (run >>= next).notices = run.notices := by
  obtain ⟨notices, outcome⟩ := run
  cases failed
  rfl

theorem notices_bind_pure (run : Run α) (f : α → β) : (run >>= fun value => pure (f value)).notices = run.notices := by
  obtain ⟨notices, failure | value⟩ := run
  · rfl
  · exact List.append_nil notices

end Run

end Overlay
