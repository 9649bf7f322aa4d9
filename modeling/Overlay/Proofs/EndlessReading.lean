import Overlay.Environment

namespace Overlay

/-- The entry that a reader gives next, and the reader behind it. A fault is no
end: the reader that gives one can be asked again, and gives the next one. -/
def EnvFile.Reader.next? : Reader → Option (Entry × Reader)
  | .entries [] => none
  | .entries (entry :: rest) => some (entry, .entries rest)
  | .faults => some (.malformed, .faults)

namespace LayeredEnvironment

open EnvFile (Reader Entry)

/-- So many turns of the loop that asks a reader for its next entry and sets
what it assigns. Each turn does with its entry what is done with a file that has
no other. -/
inductive Turns : Nat → Entries String → Reader → List Notice → Entries String → Reader → Prop
  | start {bindings : Entries String} {reader : Reader} : Turns 0 bindings reader [] bindings reader
  | next {n : Nat} {bindings changed last : Entries String} {reader behind left : Reader} {entry : Entry}
      {notices more : List Notice} : reader.next? = some (entry, behind) →
      setFile bindings [entry] = ⟨notices, .ok changed⟩ → Turns n changed behind more last left →
      Turns (n + 1) bindings reader (notices ++ more) last left

variable {bindings last : Entries String} {reader left : Reader} {notices : List Notice} {n : Nat}

/-- One turn more of the loop is one entry more of the file. -/
theorem setFile_cons {entry : Entry} {changed : Entries String} (entries : List Entry)
    (turn : setFile bindings [entry] = ⟨notices, .ok changed⟩) :
    setFile bindings (entry :: entries) =
      ⟨notices ++ (setFile changed entries).notices, (setFile changed entries).outcome⟩ := by
  cases entry <;> cases turn <;> rfl

theorem exists_setFile_singleton (bindings : Entries String) (entry : Entry) :
    ∃ notices changed, setFile bindings [entry] = ⟨notices, .ok changed⟩ := by
  cases entry <;> exact ⟨_, _, rfl⟩

/-- Two loops that took as many turns from one reader have the same left. -/
theorem Turns.left_eq {first second other : Entries String} {others : List Notice} {behind : Reader}
    (turns : Turns n first reader notices last left) (again : Turns n second reader others other behind) :
    left = behind := by
  induction turns generalizing second others with
  | start =>
    cases again
    rfl
  | next given _ _ ih =>
    cases again with
    | next givenAgain _ more =>
      cases given.symm.trans givenAgain
      exact ih more

/-- The loop over the entries of a file stops behind the last one, with what is
set for the whole file. -/
theorem exists_turns_entries (bindings : Entries String) (entries : List Entry) :
    ∃ last, Turns entries.length bindings (.entries entries) (setFile bindings entries).notices last (.entries []) ∧
      (setFile bindings entries).outcome = .ok last := by
  induction entries generalizing bindings with
  | nil => exact ⟨bindings, .start, rfl⟩
  | cons entry rest ih =>
    obtain ⟨notices, changed, turn⟩ := exists_setFile_singleton bindings entry
    obtain ⟨last, turns, outcome⟩ := ih changed
    rw [setFile_cons rest turn]
    exact ⟨last, .next rfl turn turns, outcome⟩

/-- Wherever the loop over the entries of a file stops, it has set the whole
file. -/
theorem Turns.setFile_eq {entries : List Entry} (turns : Turns n bindings (.entries entries) notices last left)
    (stops : left.next? = none) : setFile bindings entries = ⟨notices, .ok last⟩ := by
  generalize whole : Reader.entries entries = reader at turns
  induction turns generalizing entries with
  | start =>
    subst whole
    cases entries with
    | nil => rfl
    | cons => cases stops
  | next given turn _ ih =>
    subst whole
    cases entries with
    | nil => cases given
    | cons entry rest =>
      cases given
      rw [setFile_cons rest turn, ih stops rfl]

/-- Where every attempt is a fault the loop is never done: it changes nothing
and gives one notice each turn. -/
theorem turns_faults_iff : Turns n bindings .faults notices last left ↔
    notices = List.replicate n .envEntrySkipped ∧ last = bindings ∧ left = .faults := by
  constructor
  · intro turns
    generalize faults : Reader.faults = reader at turns
    induction turns with
    | start => exact ⟨rfl, rfl, rfl⟩
    | next given turn _ ih =>
      subst faults
      cases given
      cases turn
      obtain ⟨rfl, same, rest⟩ := ih rfl
      exact ⟨rfl, same, rest⟩
  · rintro ⟨rfl, rfl, rfl⟩
    have turn : setFile last [.malformed] = ⟨[.envEntrySkipped], .ok last⟩ := rfl
    induction n with
    | zero => exact .start
    | succ n ih => exact .next rfl turn ih

/-- A reader is set with an end exactly if its loop comes to a place where no
entry is left, and it is what the loop has set up to there. -/
theorem setAll_eq_ends_iff : setAll bindings reader = .ends ⟨notices, .ok last⟩ ↔
    ∃ n left, Turns n bindings reader notices last left ∧ left.next? = none := by
  cases reader with
  | entries entries =>
    constructor
    · intro set
      obtain ⟨result, turns, outcome⟩ := exists_turns_entries bindings entries
      rw [Course.ends.inj set] at turns outcome
      cases outcome
      exact ⟨_, _, turns, rfl⟩
    · rintro ⟨n, left, turns, stops⟩
      exact congrArg Course.ends (turns.setFile_eq stops)
  | faults =>
    refine iff_of_false nofun ?_
    rintro ⟨n, left, turns, stops⟩
    rw [(turns_faults_iff.mp turns).2.2] at stops
    cases stops

/-- It is set without an end exactly if its loop can take any number of turns,
and then each of them gives the same notice. -/
theorem setAll_eq_endless_iff {again : Notice} : setAll bindings reader = .endless [] again ↔
    ∀ n, ∃ left, Turns n bindings reader (List.replicate n again) bindings left ∧ left.next? ≠ none := by
  cases reader with
  | entries entries =>
    refine iff_of_false nofun fun always => ?_
    obtain ⟨left, turns, goesOn⟩ := always entries.length
    obtain ⟨last, whole, _⟩ := exists_turns_entries bindings entries
    exact goesOn (turns.left_eq whole ▸ rfl)
  | faults =>
    constructor
    · rintro ⟨⟩ n
      exact ⟨.faults, turns_faults_iff.mpr ⟨rfl, rfl, rfl⟩, nofun⟩
    · intro always
      obtain ⟨left, turns, _⟩ := always 1
      cases (turns_faults_iff.mp turns).1
      rfl

end LayeredEnvironment

end Overlay
