import Mathlib.Data.List.Forall2
import Overlay.Conversion
import Overlay.Proofs.AgreeingRuns
import Overlay.Proofs.MemberInduction

namespace Overlay

open Yaml (Tree)

/-- Two environments set the same variables, to whatever values. -/
def SameVariables (env other : Environment) : Prop := ∀ name, (env name).isSome = (other name).isSome

/-- The environment in which one variable is set. -/
def Environment.single (name value : String) : Environment := fun other => if other = name then some value else none

theorem sameVariables_single (name first second : String) :
    SameVariables (Environment.single name first) (Environment.single name second) := by
  intro other
  unfold Environment.single
  by_cases same : other = name
  · rw [if_pos same, if_pos same, Option.isSome_some, Option.isSome_some]
  · rw [if_neg same, if_neg same]

variable {env other : Environment}

/-- Expansion looks only at which variables are set when it decides between
going on and failing, so it agrees where the same ones are. -/
theorem Placeholder.expand_agree (same : SameVariables env other) (pieces : List Piece) :
    Run.Agree (fun _ _ => True) (expand env pieces) (expand other pieces) := by
  induction pieces with
  | nil => exact Run.agree_pure trivial
  | cons piece rest ih =>
    cases piece with
    | char c => exact ih.bind fun _ _ _ => Run.agree_pure trivial
    | reference name =>
      rw [expand, expand]
      have isSet := same name
      cases inFirst : env name with
      | none =>
        rw [inFirst, Option.isSome_none, eq_comm, Option.isSome_eq_false_iff, Option.isNone_iff_eq_none] at isSet
        rw [isSet]
        exact Run.agree_fail _
      | some value =>
        rw [inFirst, Option.isSome_some, eq_comm, Option.isSome_iff_exists] at isSet
        obtain ⟨another, inOther⟩ := isSet
        rw [inOther]
        exact (Run.agree_note _).bind fun _ _ _ => ih.bind fun _ _ _ => Run.agree_pure trivial

theorem Placeholder.substitute_agree (same : SameVariables env other) (text : String) :
    Run.Agree (fun _ _ => True) (substitute env text) (substitute other text) :=
  (expand_agree same (pieces text.toList)).bind fun _ _ _ => Run.agree_pure trivial

namespace Conversion

/-- A key is converted or refused alike, though its name may differ. -/
theorem keyName_agree (same : SameVariables env other) (key : Tree) :
    Run.Agree (fun _ _ => True) (keyName env key) (keyName other key) := by
  induction key using Tree.memberInduction with
  | string text => exact Placeholder.substitute_agree same text
  | tagged _ _ ih => rwa [keyName, keyName]
  | null => exact Run.agree_pure trivial
  | bool _ => exact Run.agree_pure trivial
  | integer _ => exact Run.agree_pure trivial
  | float _ => exact Run.agree_pure trivial
  | sequence _ _ => exact Run.agree_fail _
  | mapping _ _ => exact Run.agree_fail _

variable {r : Value → Value → Prop}

theorem values_agree {items : List Tree} (each : ∀ item ∈ items, Run.Agree r (value env item) (value other item)) :
    Run.Agree (List.Forall₂ r) (values env items) (values other items) := by
  induction items with
  | nil => exact Run.agree_pure .nil
  | cons item rest ih =>
    obtain ⟨here, later⟩ := List.forall_mem_cons.mp each
    rw [values, values]
    exact here.bind fun _ _ first => (ih later).bind fun _ _ others => Run.agree_pure (.cons first others)

/-- Two runs over the same entries keep what setting an argument keeps. -/
theorem arguments_agree {names : String → String → Prop} {related : Arguments → Arguments → Prop}
    (insert : ∀ a b name another v w, related a b → names name another → r v w →
      related (a.insert name v) (b.insert another w))
    {entries : List (Tree × Tree)}
    (keys : ∀ entry ∈ entries, Run.Agree names (keyName env entry.1) (keyName other entry.1))
    (items : ∀ entry ∈ entries, Run.Agree r (value env entry.2) (value other entry.2))
    {earlier others : Arguments} (start : related earlier others) :
    Run.Agree related (arguments env earlier entries) (arguments other others entries) := by
  induction entries generalizing earlier others with
  | nil => exact Run.agree_pure start
  | cons entry rest ih =>
    obtain ⟨key, item⟩ := entry
    obtain ⟨atKey, laterKeys⟩ := List.forall_mem_cons.mp keys
    obtain ⟨atItem, laterItems⟩ := List.forall_mem_cons.mp items
    rw [arguments, arguments]
    exact atKey.bind fun _ _ named => atItem.bind fun _ _ valued =>
      ih laterKeys laterItems (insert _ _ _ _ _ _ start named valued)

/-- Which notices a conversion gives, how it fails and the kind of its result
depend only on which variables are set. -/
theorem value_agree (same : SameVariables env other) (tree : Tree) :
    Run.Agree (fun v w => v.kind = w.kind) (value env tree) (value other tree) := by
  induction tree using Tree.memberInduction with
  | null => exact Run.agree_pure rfl
  | bool _ => exact Run.agree_pure rfl
  | integer n =>
    rw [value, value]
    exact (Run.agree_self _).imp fun _ _ => congrArg Value.kind
  | float _ => exact Run.agree_pure rfl
  | string text => exact (Placeholder.substitute_agree same text).bind fun _ _ _ => Run.agree_pure rfl
  | sequence items ih =>
    rw [value, value]
    exact (values_agree ih).bind fun _ _ _ => Run.agree_pure rfl
  | mapping entries ih =>
    rw [value, value]
    have entered : Run.Agree (fun _ _ => True) (arguments env [] entries) (arguments other [] entries) :=
      arguments_agree (fun _ _ _ _ _ _ _ _ _ => trivial) (fun entry _ => keyName_agree same entry.1)
        (fun entry member => (ih entry member).2) trivial
    exact entered.bind fun _ _ _ => Run.agree_pure rfl
  | tagged _ _ ih => rwa [value, value]

end Conversion

end Overlay
