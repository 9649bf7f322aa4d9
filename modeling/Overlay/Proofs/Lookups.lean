import Overlay.Placeholder
import Overlay.Proofs.Success

namespace Overlay

variable {α β : Type}

/-- A computation looks up these variables and no others: what it comes to
depends on their values alone, it succeeds only where all of them are set, and
of no other variable does it say that it is missing. -/
structure Reads (names : List String) (computation : Environment → Run α) : Prop where
  congr : ∀ {env other : Environment}, (∀ name ∈ names, env name = other name) → computation env = computation other
  isSet : ∀ {env : Environment} {result : α}, (computation env).outcome = .ok result →
    ∀ name ∈ names, (env name).isSome = true
  missing : ∀ {env : Environment} {name : String}, (computation env).outcome = .error (.missingVariable name) →
    name ∈ names ∧ env name = none

/-- What does not fail for a variable need not look at any. -/
theorem reads_nothing {run : Run α} (other : ∀ name, run.outcome ≠ .error (.missingVariable name)) :
    Reads [] fun _ => run where
  congr _ := rfl
  isSet _ := List.forall_mem_nil _
  missing failed := absurd failed (other _)

theorem reads_pure (value : α) : Reads [] fun _ => (pure value : Run α) := reads_nothing nofun

theorem reads_note (notice : Notice) : Reads [] fun _ => Run.note notice := reads_nothing nofun

/-- Computations in sequence read what the first reads and then what the second
reads. Where the first fails, what the second would have read does not matter,
as agreement is asked for on all names. -/
theorem Reads.bind {names more : List String} {computation : Environment → Run α} {next : Environment → α → Run β}
    (reads : Reads names computation) (later : ∀ value, Reads more fun env => next env value) :
    Reads (names ++ more) fun env => computation env >>= next env where
  congr agree := by
    obtain ⟨inFirst, inRest⟩ := List.forall_mem_append.mp agree
    rw [reads.congr inFirst]
    exact congrArg _ (funext fun value => (later value).congr inRest)
  isSet success := by
    obtain ⟨value, first, rest⟩ := Run.outcome_bind_eq_ok_iff.mp success
    exact List.forall_mem_append.mpr ⟨reads.isSet first, (later value).isSet rest⟩
  missing {env name} failed := by
    rw [Run.outcome_bind] at failed
    cases first : (computation env).outcome with
    | error failure =>
      rw [first] at failed
      cases failed
      obtain ⟨member, unset⟩ := reads.missing first
      exact ⟨List.mem_append_left _ member, unset⟩
    | ok value =>
      rw [first] at failed
      obtain ⟨member, unset⟩ := (later value).missing failed
      exact ⟨List.mem_append_right _ member, unset⟩

theorem Reads.map {names : List String} {computation : Environment → Run α} (reads : Reads names computation)
    (f : α → β) : Reads names fun env => computation env >>= fun value => pure (f value) := by
  have read := reads.bind fun value => reads_pure (f value)
  rwa [List.append_nil] at read

/-- The rule for a look-up: its name is read, and a failure for want of it names
it. -/
theorem reads_lookup {name : String} {names : List String} {next : Environment → String → Run α}
    (found : ∀ value, Reads names fun env => next env value) :
    Reads (name :: names) fun env =>
      match env name with
      | none => Run.fail (.missingVariable name)
      | some value => next env value where
  congr {env other} agree := by
    obtain ⟨here, inRest⟩ := List.forall_mem_cons.mp agree
    rw [here]
    cases other name with
    | none => rfl
    | some value => exact (found value).congr inRest
  isSet {env result} success := by
    cases atName : env name with
    | none =>
      rw [atName] at success
      cases success
    | some value =>
      rw [atName] at success
      exact List.forall_mem_cons.mpr ⟨by rw [atName, Option.isSome_some], (found value).isSet success⟩
  missing {env missed} failed := by
    cases atName : env name with
    | none =>
      rw [atName] at failed
      cases failed
      exact ⟨List.mem_cons_self, atName⟩
    | some value =>
      rw [atName] at failed
      obtain ⟨member, unset⟩ := (found value).missing failed
      exact ⟨List.mem_cons_of_mem _ member, unset⟩

namespace Placeholder

/-- Pieces are expanded by looking up their references in order. -/
theorem reads_expand (pieces : List Piece) :
    Reads (pieces.filterMap fun | .char _ => none | .reference name => some name) fun env => expand env pieces := by
  induction pieces with
  | nil => exact reads_pure []
  | cons piece rest ih =>
    cases piece with
    | char c => exact ih.map (c :: ·)
    | reference name =>
      simp only [expand]
      exact reads_lookup fun value => (reads_note _).bind fun _ => ih.map (value.toList ++ ·)

/-- So a substitution reads exactly the names that the text refers to. -/
theorem reads_substitute (text : String) : Reads (names text) fun env => substitute env text :=
  (reads_expand (pieces text.toList)).map String.ofList

end Placeholder

end Overlay
