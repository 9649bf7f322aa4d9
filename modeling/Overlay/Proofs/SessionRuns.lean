import Overlay.Session
import Overlay.Proofs.DistinctNames
import Overlay.Proofs.MergeOutcome

namespace Overlay

theorem Entries.sublist_erase {α : Type} (entries : Entries α) (name : String) :
    (entries.erase name).Sublist entries := by
  induction entries with
  | nil => exact List.Sublist.refl _
  | cons entry rest ih =>
    rw [erase]
    split
    · exact List.sublist_cons_self _ _
    · exact ih.cons_cons entry

theorem Entries.get?_erase {α : Type} {entries : Entries α} (distinct : entries.keys.Nodup) (name other : String) :
    (entries.erase name).get? other = if name = other then none else entries.get? other := by
  induction entries with
  | nil => rw [erase, get?_nil, ite_self]
  | cons entry rest ih =>
    obtain ⟨key, value⟩ := entry
    obtain ⟨absent, later⟩ := List.nodup_cons.mp distinct
    by_cases found : key = name
    · subst found
      rw [erase, if_pos rfl, get?]
      split
      · rename_i same
        exact (get?_eq_none_iff rest other).mpr (same ▸ absent)
      · rfl
    · rw [erase, if_neg found, get?, get?, ih later]
      split
      · rename_i same
        rw [if_neg fun erased => found (same.trans erased.symm)]
      · rfl

theorem Value.namesDistinct_sublist {entries others : Arguments} (part : others.Sublist entries)
    (distinct : (Value.mapping entries).namesDistinct = true) : (Value.mapping others).namesDistinct = true := by
  obtain ⟨keys, values⟩ := namesDistinct_mapping_iff.mp distinct
  exact namesDistinct_mapping_iff.mpr ⟨keys.sublist (part.map Prod.fst),
    fun entry member => values entry (part.subset member)⟩

theorem Loading.namesDistinct_ofText {env : Environment} {origin text : String} {arguments : Arguments}
    (parsed : (ofText env origin text).outcome = .ok arguments) : (Value.mapping arguments).namesDistinct = true := by
  cases loaded : tree text with
  | error fault =>
    rw [ofText_of_error loaded] at parsed
    cases parsed
  | ok document =>
    rw [ofText_of_ok loaded, Run.outcome_bind_eq_ok_iff] at parsed
    obtain ⟨value, converts, shape⟩ := parsed
    cases value with
    | mapping entries =>
      cases shape
      exact Conversion.namesDistinct_of_value converts
    | null =>
      cases shape
      rfl
    | _ => cases shape

/-- What a merge comes to has the names of the baseline, and its values are
those of the one or of the other. -/
theorem Merge.namesDistinct_overlay {file baseline : Arguments}
    (distinct : (Value.mapping file).namesDistinct = true)
    (distinctBaseline : (Value.mapping baseline).namesDistinct = true) :
    (Value.mapping (overlay file baseline)).namesDistinct = true := by
  obtain ⟨-, values⟩ := Value.namesDistinct_mapping_iff.mp distinct
  obtain ⟨keys, old⟩ := Value.namesDistinct_mapping_iff.mp distinctBaseline
  refine Value.namesDistinct_mapping_iff.mpr ⟨(keys_overlay file baseline).symm ▸ keys, ?_⟩
  refine List.forall_mem_map.mpr fun entry member => ?_
  cases new : given? file entry.1 with
  | none => exact old entry member
  | some value => exact values _ (Entries.mem_of_get? (given?_eq_some_iff.mp new).1)

namespace Step

/-- The variables behind a step. Only two kinds of steps have to do with them,
and both always succeed. -/
def changeVariables (bindings : Entries String) : Step → Entries String
  | .setVariable name value => bindings.insert name value
  | .unsetVariable name => bindings.erase name
  | _ => bindings

/-- What a step makes of a variable: a value, or nothing if it takes the
variable away. -/
def given? (name : String) : Step → Option (Option String)
  | .setVariable other value => if other = name then some (some value) else none
  | .unsetVariable other => if other = name then some none else none
  | _ => none

/-- A value that is inserted as it is has no name twice; all others are made
from texts. -/
def InsertsDistinct : Step → Prop
  | .insert _ value => value.namesDistinct = true
  | _ => True

/-- A step gives a variable a value, takes it away or leaves it alone, and this
is all it does to the variables. -/
theorem get?_changeVariables {bindings : Entries String} (distinct : bindings.keys.Nodup) (step : Step)
    (name : String) : (step.changeVariables bindings).get? name = (step.given? name).getD (bindings.get? name) := by
  cases step with
  | setVariable other value =>
    rw [changeVariables, given?, Entries.get?_insert]
    split <;> rfl
  | unsetVariable other =>
    rw [changeVariables, given?, Entries.get?_erase distinct]
    split <;> rfl
  | _ => rfl

end Step

namespace Session

/-- Between two steps no variable is bound twice, and no mapping in the
arguments has a name twice. -/
structure Distinct (session : Session) : Prop where
  bindings : session.bindings.keys.Nodup
  arguments : (Value.mapping session.arguments).namesDistinct = true

variable {session : Session} {step : Step}

/-- A step that fails changes nothing: neither the variables nor the arguments.
-/
theorem next_of_error {failure : Failure} (failed : (session.step step).outcome = .error failure) :
    session.next step = session := by
  rw [next, failed]

theorem next_of_ok {after : Session} {answer : Answer} (success : (session.step step).outcome = .ok (after, answer)) :
    session.next step = after := by
  rw [next, success]

/-- What a step that succeeds does to the variables and to the arguments. -/
theorem step_eq_ok {after : Session} {answer : Answer} (success : (session.step step).outcome = .ok (after, answer)) :
    after.bindings = step.changeVariables session.bindings ∧
      (session.Distinct → step.InsertsDistinct → (Value.mapping after.arguments).namesDistinct = true) := by
  cases step with
  | setVariable name value =>
    cases success
    exact ⟨rfl, fun distinct _ => distinct.arguments⟩
  | unsetVariable name =>
    cases success
    exact ⟨rfl, fun distinct _ => distinct.arguments⟩
  | insert key value =>
    cases success
    exact ⟨rfl, fun distinct inner => Value.namesDistinct_insert distinct.arguments key inner⟩
  | insertScalar key text =>
    cases success
    refine ⟨rfl, fun distinct _ => ?_⟩
    exact Value.namesDistinct_insert distinct.arguments key (Conversion.namesDistinct_scalar text)
  | remove key =>
    cases success
    exact ⟨rfl, fun distinct _ => Value.namesDistinct_sublist (Entries.sublist_erase _ key) distinct.arguments⟩
  | substitute text =>
    obtain ⟨result, _, same⟩ := Run.outcome_bind_eq_ok_iff.mp success
    cases same
    exact ⟨rfl, fun distinct _ => distinct.arguments⟩
  | replace yaml =>
    obtain ⟨arguments, parsed, same⟩ := Run.outcome_bind_eq_ok_iff.mp success
    cases same
    exact ⟨rfl, fun _ _ => Loading.namesDistinct_ofText parsed⟩
  | merge yaml ignoreUnknown =>
    obtain ⟨file, parsed, rest⟩ := Run.outcome_bind_eq_ok_iff.mp success
    obtain ⟨arguments, merged, same⟩ := Run.outcome_bind_eq_ok_iff.mp rest
    cases same
    refine ⟨rfl, fun distinct _ => ?_⟩
    rw [withArguments, (outcome_merge_eq_ok_iff.mp merged).2.2]
    exact Merge.namesDistinct_overlay (Loading.namesDistinct_ofText parsed) distinct.arguments
  | roundTrip form =>
    obtain ⟨arguments, parsed, same⟩ := Run.outcome_bind_eq_ok_iff.mp success
    cases same
    exact ⟨rfl, fun _ _ => Loading.namesDistinct_ofText parsed⟩

/-- A step that fails has nothing to do with the variables, so that there is no
need to ask whether it does. -/
theorem bindings_next (session : Session) (step : Step) :
    (session.next step).bindings = step.changeVariables session.bindings := by
  cases outcome : (session.step step).outcome with
  | ok result =>
    obtain ⟨after, answer⟩ := result
    rw [next_of_ok outcome, (step_eq_ok outcome).1]
  | error failure =>
    rw [next_of_error outcome]
    cases step with
    | setVariable | unsetVariable => cases outcome
    | _ => rfl

theorem nodup_keys_bindings_next (distinct : session.bindings.keys.Nodup) (step : Step) :
    (session.next step).bindings.keys.Nodup := by
  rw [bindings_next]
  cases step with
  | setVariable name value => exact Entries.nodup_keys_insert distinct name value
  | unsetVariable name => exact distinct.sublist ((Entries.sublist_erase _ name).map Prod.fst)
  | _ => exact distinct

/-- A step keeps the names distinct if what it inserts has distinct names
itself. -/
theorem Distinct.next (distinct : session.Distinct) (inserts : step.InsertsDistinct) :
    (session.next step).Distinct where
  bindings := nodup_keys_bindings_next distinct.bindings step
  arguments := by
    cases outcome : (session.step step).outcome with
    | ok result =>
      rw [next_of_ok outcome]
      exact (step_eq_ok outcome).2 distinct inserts
    | error failure =>
      rw [next_of_error outcome]
      exact distinct.arguments

/-- The session behind several steps. -/
def run (session : Session) (steps : List Step) : Session := steps.foldl next session

/-- A step that fails in a run may as well be left out. -/
theorem run_append_of_error {before after : List Step} {failure : Failure}
    (failed : ((session.run before).step step).outcome = .error failure) :
    session.run (before ++ step :: after) = session.run (before ++ after) := by
  have skipped : next (before.foldl next session) step = before.foldl next session := next_of_error failed
  rw [run, run, List.foldl_append, List.foldl_append, List.foldl_cons, skipped]

/-- Names stay distinct in a run, whichever of its steps fail. -/
theorem Distinct.run (distinct : session.Distinct) {steps : List Step}
    (inserts : ∀ step ∈ steps, step.InsertsDistinct) : (session.run steps).Distinct := by
  induction steps generalizing session with
  | nil => exact distinct
  | cons step steps ih =>
    obtain ⟨here, later⟩ := List.forall_mem_cons.mp inserts
    exact ih (distinct.next here) later

/-- Behind a run a variable has what the last step that has to do with it made
of it, and is as it was if there is no such step. -/
theorem environment_run (distinct : session.bindings.keys.Nodup) (steps : List Step) (name : String) :
    (session.run steps).environment name =
      (steps.reverse.findSome? (Step.given? name)).getD (session.environment name) := by
  induction steps generalizing session with
  | nil => rfl
  | cons step steps ih =>
    have change : (session.next step).environment name = (step.given? name).getD (session.environment name) := by
      rw [environment, bindings_next, Step.get?_changeVariables distinct]
      rfl
    rw [List.reverse_cons, List.findSome?_append, List.findSome?_singleton]
    refine (ih (nodup_keys_bindings_next distinct step)).trans ?_
    rw [change]
    cases steps.reverse.findSome? (Step.given? name) <;> rfl

end Session

end Overlay
