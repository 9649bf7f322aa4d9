import Overlay.Run

namespace Overlay

variable {α β γ δ : Type} {r : α → β → Prop} {s : γ → δ → Prop}

/-- Two computations fail with the same failure, or succeed with results that
are related. -/
inductive EndAlike (r : α → β → Prop) : Except Failure α → Except Failure β → Prop
  | success {first : α} {second : β} : r first second → EndAlike r (.ok first) (.ok second)
  | failure {failure : Failure} : EndAlike r (.error failure) (.error failure)

theorem EndAlike.imp {first : Except Failure α} {second : Except Failure β} (alike : EndAlike r first second)
    {weaker : α → β → Prop} (implies : ∀ a b, r a b → weaker a b) : EndAlike weaker first second := by
  cases alike with
  | success related => exact .success (implies _ _ related)
  | failure => exact .failure

/-- Two runs cannot be told apart by their notices and failures, and their
results are related. -/
structure Run.Agree (r : α → β → Prop) (first : Run α) (second : Run β) : Prop where
  notices : first.notices = second.notices
  outcome : EndAlike r first.outcome second.outcome

namespace Run

theorem agree_pure {first : α} {second : β} (related : r first second) : Agree r (pure first) (pure second) :=
  ⟨rfl, .success related⟩

theorem agree_fail (failure : Failure) : Agree r (fail failure) (fail failure) := ⟨rfl, .failure⟩

theorem agree_note (notice : Notice) : Agree (fun _ _ => True) (note notice) (note notice) := ⟨rfl, .success trivial⟩

/-- A run that does not depend on what is being compared agrees with itself. -/
theorem agree_self (run : Run α) : Agree Eq run run := by
  refine ⟨rfl, ?_⟩
  cases run.outcome with
  | error failure => exact .failure
  | ok value => exact .success rfl

/-- The rule for computations in sequence. Notices are compared as well, so that
runs that agree tell the same. -/
theorem Agree.bind {first : Run α} {second : Run β} (agree : Agree r first second) {next : α → Run γ}
    {other : β → Run δ} (later : ∀ a b, r a b → Agree s (next a) (other b)) :
    Agree s (first >>= next) (second >>= other) := by
  obtain ⟨notices, outcome⟩ := first
  obtain ⟨otherNotices, otherOutcome⟩ := second
  obtain ⟨sameNotices, ends⟩ := agree
  cases sameNotices
  cases ends with
  | failure => exact ⟨rfl, .failure⟩
  | success related =>
    obtain ⟨sameLater, endsLater⟩ := later _ _ related
    exact ⟨congrArg (notices ++ ·) sameLater, endsLater⟩

theorem Agree.imp {first : Run α} {second : Run β} (agree : Agree r first second) {weaker : α → β → Prop}
    (implies : ∀ a b, r a b → weaker a b) : Agree weaker first second :=
  ⟨agree.notices, agree.outcome.imp implies⟩

end Run

end Overlay
