import Overlay.Proofs.Lookups
import Overlay.Proofs.PlaceholderScan
import Overlay.Proofs.SameVariables

namespace Overlay

namespace Piece

def name? : Piece → Option String
  | .char _ => none
  | .reference name => some name

/-- The piece as it is written. -/
def source : Piece → List Char
  | .char c => [c]
  | .reference name => '$' :: '{' :: (name.toList ++ ['}'])

/-- The piece as it is expanded where its variable is set. -/
def expanded (env : Environment) : Piece → List Char
  | .char c => [c]
  | .reference name => ((env name).getD "").toList

end Piece

namespace Placeholder

variable {env : Environment}

/-- The names of a text are those of its references, in their order and with
repetitions. -/
theorem names_eq (text : String) : names text = (pieces text.toList).filterMap Piece.name? := by
  refine List.filterMap_congr fun piece _ => ?_
  cases piece <;> rfl

/-- The pieces of a text are all of it, in its order. -/
theorem flatMap_source_pieces (text : List Char) : (pieces text).flatMap Piece.source = text := by
  induction text using scanInduction with
  | nil => rw [pieces, List.flatMap_nil]
  | reference text name after found ih =>
    rw [found.pieces_eq, List.flatMap_cons, ih, Piece.source, String.toList_ofList, found.whole]
    simp
  | literal c rest closed ih =>
    rw [pieces_of_not_opens closed, List.flatMap_cons, ih, Piece.source, List.singleton_append]

/-- Pieces fail with the first name that is not set, and else all of them are
expanded. -/
theorem outcome_expand (env : Environment) (pieces : List Piece) : (expand env pieces).outcome =
    match (pieces.filterMap Piece.name?).find? fun name => (env name).isNone with
    | some name => .error (.missingVariable name)
    | none => .ok (pieces.flatMap (Piece.expanded env)) := by
  induction pieces with
  | nil => rfl
  | cons piece rest ih =>
    cases piece with
    | char c =>
      rw [outcome_expand_char, ih, List.filterMap_cons_none (by rfl), List.flatMap_cons]
      split <;> rfl
    | reference name =>
      rw [List.filterMap_cons_some (by rfl), List.flatMap_cons, Piece.expanded]
      cases atName : env name with
      | none => rw [outcome_expand_of_none atName, List.find?_cons_of_pos (by rw [atName]; rfl)]
      | some value =>
        rw [outcome_expand_of_some atName, ih, List.find?_cons_of_neg (by rw [atName]; exact Bool.false_ne_true)]
        split <;> rfl

/-- Of each name that is set it is told that it was resolved, up to the first
one that is not. -/
theorem notices_expand (env : Environment) (pieces : List Piece) : (expand env pieces).notices =
    ((pieces.filterMap Piece.name?).takeWhile fun name => (env name).isSome).map .variableResolved := by
  induction pieces with
  | nil => rfl
  | cons piece rest ih =>
    cases piece with
    | char c => rw [expand, Run.notices_bind_pure, ih, List.filterMap_cons_none (by rfl)]
    | reference name =>
      rw [List.filterMap_cons_some (by rfl), expand]
      cases atName : env name with
      | none =>
        rw [List.takeWhile_cons_of_neg (by rw [atName]; exact Bool.false_ne_true)]
        rfl
      | some value =>
        rw [List.takeWhile_cons_of_pos (by rw [atName]; rfl), List.map_cons, ← ih]
        exact congrArg _ (Run.notices_bind_pure _ _)

/-- What `expand` does, with look-ups that may do more than give the value of a
variable. -/
def expandBy {m : Type → Type} [Monad m] (look : String → m (Option String)) :
    List Piece → m (Except Failure (List Char))
  | [] => pure (.ok [])
  | .char c :: rest => do
    let tail ← expandBy look rest
    return tail.map (c :: ·)
  | .reference name :: rest => do
    match ← look name with
    | none => return .error (.missingVariable name)
    | some value => do
      let tail ← expandBy look rest
      return tail.map (value.toList ++ ·)

/-- Substitution with its look-ups as a parameter, so that an instance of it can
record what it asked for. -/
def substituteBy {m : Type → Type} [Monad m] (look : String → m (Option String)) (text : String) :
    m (Except Failure String) := do
  let expanded ← expandBy look (pieces text.toList)
  return expanded.map String.ofList

/-- Looks a variable up and writes down that it was asked for. -/
def recorded (env : Environment) (name : String) : StateM (List String) (Option String) := do
  modify (· ++ [name])
  return env name

theorem run_expandBy_char (c : Char) (rest : List Piece) (asked : List String) :
    (expandBy (recorded env) (.char c :: rest)).run asked =
      (((expandBy (recorded env) rest).run asked).1.map (c :: ·), ((expandBy (recorded env) rest).run asked).2) := rfl

theorem run_expandBy_of_some {name value : String} (isSet : env name = some value) (rest : List Piece)
    (asked : List String) :
    (expandBy (recorded env) (.reference name :: rest)).run asked =
      (((expandBy (recorded env) rest).run (asked ++ [name])).1.map (value.toList ++ ·),
        ((expandBy (recorded env) rest).run (asked ++ [name])).2) := by
  simp only [expandBy, recorded, isSet]
  rfl

theorem run_expandBy_of_none {name : String} (unset : env name = none) (rest : List Piece) (asked : List String) :
    (expandBy (recorded env) (.reference name :: rest)).run asked =
      (.error (.missingVariable name), asked ++ [name]) := by
  simp only [expandBy, recorded, unset]
  rfl

/-- The recorded look-ups are the names up to the first that is not set, and
that one. The induction carries what was asked for before. -/
theorem run_expandBy_recorded (env : Environment) (pieces : List Piece) (asked : List String) :
    (expandBy (recorded env) pieces).run asked = ((expand env pieces).outcome,
      asked ++ (((pieces.filterMap Piece.name?).takeWhile fun name => (env name).isSome) ++
        ((pieces.filterMap Piece.name?).find? fun name => (env name).isNone).toList)) := by
  induction pieces generalizing asked with
  | nil =>
    rw [expandBy, expand, List.filterMap_nil, List.takeWhile_nil, List.find?_nil, Option.toList_none, List.append_nil,
      List.append_nil]
    rfl
  | cons piece rest ih =>
    cases piece with
    | char c => rw [run_expandBy_char, ih, outcome_expand_char, List.filterMap_cons_none (by rfl)]
    | reference name =>
      rw [List.filterMap_cons_some (by rfl)]
      cases atName : env name with
      | none =>
        rw [run_expandBy_of_none atName, outcome_expand_of_none atName,
          List.takeWhile_cons_of_neg (by rw [atName]; exact Bool.false_ne_true),
          List.find?_cons_of_pos (by rw [atName]; rfl), List.nil_append, Option.toList_some]
      | some value =>
        rw [run_expandBy_of_some atName, ih, outcome_expand_of_some atName,
          List.takeWhile_cons_of_pos (by rw [atName]; rfl),
          List.find?_cons_of_neg (by rw [atName]; exact Bool.false_ne_true), List.append_assoc, List.singleton_append,
          List.cons_append]

/-- The first name of a text that is not set. -/
def missing? (env : Environment) (text : String) : Option String := (names text).find? fun name => (env name).isNone

theorem missing?_eq_none_iff {text : String} :
    missing? env text = none ↔ ∀ name ∈ names text, (env name).isSome = true := by
  rw [missing?, List.find?_eq_none]
  refine forall₂_congr fun name _ => ?_
  rw [Bool.not_eq_true, Option.isNone_eq_false_iff]

theorem outcome_substitute_of_missing {text name : String} (missing : missing? env text = some name) :
    (substitute env text).outcome = .error (.missingVariable name) := by
  rw [missing?, names_eq] at missing
  rw [outcome_substitute, outcome_expand, missing]
  rfl

theorem outcome_substitute_of_complete {text : String} (complete : missing? env text = none) :
    (substitute env text).outcome = .ok (String.ofList ((pieces text.toList).flatMap (Piece.expanded env))) := by
  rw [missing?, names_eq] at complete
  rw [outcome_substitute, outcome_expand, complete]
  rfl

/-- What is noticed are the references that were resolved, up to the first that
could not be. -/
theorem notices_substitute (env : Environment) (text : String) : (substitute env text).notices =
    ((names text).takeWhile fun name => (env name).isSome).map .variableResolved := by
  rw [substitute, Run.notices_bind_pure, notices_expand, names_eq]

/-- The recorded substitution has the outcome of the plain one, together with
the look-ups that it took. -/
theorem run_substituteBy_recorded (env : Environment) (text : String) :
    (substituteBy (recorded env) text).run [] = ((substitute env text).outcome,
      ((names text).takeWhile fun name => (env name).isSome) ++ (missing? env text).toList) := by
  rw [outcome_substitute, missing?, names_eq, ← List.nil_append (_ ++ _)]
  exact congrArg (fun ran => (ran.1.map String.ofList, ran.2)) (run_expandBy_recorded env (pieces text.toList) [])

/-- The environment in which every variable stands for the reference to it. -/
def ofReferences : Environment := fun name => some (String.ofList (Piece.reference name).source)

theorem outcome_substitute_ofReferences (text : String) : (substitute ofReferences text).outcome = .ok text := by
  have complete : missing? ofReferences text = none := missing?_eq_none_iff.mpr fun _ _ => rfl
  have asWritten : Piece.expanded ofReferences = Piece.source := by
    funext piece
    cases piece with
    | char c => rfl
    | reference name => exact String.toList_ofList
  rw [outcome_substitute_of_complete complete, asWritten, flatMap_source_pieces, String.ofList_toList]

/-- The names of a text tell beforehand how it is expanded: it can be exactly if
all of them are set, and fails with the first that is not. They are looked up
and told as resolved one after the other, each as often as it occurs, up to the
one that is missing; nothing else matters to the result. Between the names no
character is lost, added or moved. -/
theorem substitute_names (env : Environment) (text : String) :
    ((∃ result, (substitute env text).outcome = .ok result) ↔ ∀ name ∈ names text, (env name).isSome = true) ∧
    (∀ failure, (substitute env text).outcome = .error failure ↔
      ∃ name, missing? env text = some name ∧ failure = .missingVariable name) ∧
    (substitute env text).notices = ((names text).takeWhile fun name => (env name).isSome).map .variableResolved ∧
    (substituteBy (recorded env) text).run [] = ((substitute env text).outcome,
      ((names text).takeWhile fun name => (env name).isSome) ++ (missing? env text).toList) ∧
    (∀ other : Environment, (∀ name ∈ names text, env name = other name) →
      substitute env text = substitute other text) ∧
    (substitute ofReferences text).outcome = .ok text := by
  refine ⟨?_, ?_, notices_substitute env text, run_substituteBy_recorded env text,
    fun other agree => (reads_substitute text).congr agree, outcome_substitute_ofReferences text⟩
  · rw [← missing?_eq_none_iff]
    cases missing : missing? env text with
    | none => exact iff_of_true ⟨_, outcome_substitute_of_complete missing⟩ rfl
    | some name => simp [outcome_substitute_of_missing missing]
  · intro failure
    cases missing : missing? env text with
    | none => simp [outcome_substitute_of_complete missing]
    | some name =>
      rw [outcome_substitute_of_missing missing]
      simp [eq_comm]

/-- A variable that occurs twice is looked up twice, and behind one that is
missing none. -/
example : (substituteBy (recorded (Environment.single "A" "v")) "$\x7bA\x7d$\x7bA\x7d$\x7bB\x7d$\x7bC\x7d").run [] =
    (.error (.missingVariable "B"), ["A", "A", "B"]) := by cbv

end Placeholder

end Overlay
