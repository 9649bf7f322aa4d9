import Overlay.Conversion
import Overlay.Proofs.EntriesOfList
import Overlay.Proofs.RelatedLists
import Overlay.Proofs.Success

namespace Overlay.Conversion

open Yaml (Tree)

/-- An entry of a mapping converts to a named value. -/
def Converts (env : Environment) (entry : Tree × Tree) (pair : String × Value) : Prop :=
  (keyName env entry.1).outcome = .ok pair.1 ∧ (value env entry.2).outcome = .ok pair.2

/-- The keys of the entries get these names. -/
def Named (env : Environment) (entries : List (Tree × Tree)) (names : List String) : Prop :=
  List.Forall₂ (fun entry name => (keyName env entry.1).outcome = .ok name) entries names

theorem Named.mem_iff {env : Environment} {entries : List (Tree × Tree)} {names : List String}
    (named : Named env entries names) {name : String} :
    name ∈ names ↔ ∃ entry ∈ entries, (keyName env entry.1).outcome = .ok name := by
  constructor
  · exact exists_left_of_forall₂ named
  · intro present
    obtain ⟨entry, inEntries, here⟩ := present
    obtain ⟨found, inNames, again⟩ := exists_right_of_forall₂ named inEntries
    cases here.symm.trans again
    exact inNames

/-- A mapping has one list of names: a key converts to one name only. -/
theorem Named.unique {env : Environment} {entries : List (Tree × Tree)} {names others : List String}
    (named : Named env entries names) (again : Named env entries others) : names = others :=
  List.right_unique_forall₂' (fun _ _ _ here there => Except.ok.inj (here.symm.trans there)) named again

theorem named_keys {env : Environment} {r : Tree × Tree → String × Value → Prop}
    (names : ∀ entry pair, r entry pair → (keyName env entry.1).outcome = .ok pair.1)
    {entries : List (Tree × Tree)} {pairs : List (String × Value)} (each : List.Forall₂ r entries pairs) :
    Named env entries (Entries.keys pairs) :=
  List.forall₂_map_right_iff.mpr (each.imp names)

theorem named_of_converts {env : Environment} {entries : List (Tree × Tree)} {pairs : List (String × Value)}
    (each : List.Forall₂ (Converts env) entries pairs) : Named env entries (Entries.keys pairs) :=
  named_keys (fun _ _ => And.left) each

/-- What stands under a name is what one of the entries converts to. -/
theorem exists_entry_of_get? {env : Environment} {entries : List (Tree × Tree)} {pairs : List (String × Value)}
    (each : List.Forall₂ (Converts env) entries pairs) {name : String} {found : Value}
    (atName : (Entries.ofList pairs).get? name = some found) : ∃ entry ∈ entries, Converts env entry (name, found) := by
  rw [Entries.get?_ofList] at atName
  exact exists_left_of_forall₂ each (List.mem_reverse.mp (Entries.mem_of_get? atName))

theorem values_eq_ok_iff {env : Environment} {items : List Tree} {results : List Value} :
    (values env items).outcome = .ok results ↔
      List.Forall₂ (fun item result => (value env item).outcome = .ok result) items results := by
  induction items generalizing results with
  | nil =>
    rw [values, List.forall₂_nil_left_iff]
    exact ⟨fun same => (Except.ok.inj same).symm, fun same => congrArg Except.ok same.symm⟩
  | cons item rest ih =>
    rw [values, Run.outcome_bind_eq_ok_iff, List.forall₂_cons_left_iff]
    constructor
    · intro converted
      obtain ⟨first, here, later⟩ := converted
      obtain ⟨others, success, same⟩ := Run.outcome_bind_eq_ok_iff.mp later
      exact ⟨first, others, here, ih.mp success, (Except.ok.inj same).symm⟩
    · intro pieces
      obtain ⟨first, others, here, later, rfl⟩ := pieces
      exact ⟨first, here, Run.outcome_bind_eq_ok_iff.mpr ⟨others, ih.mpr later, rfl⟩⟩

/-- Entries are converted one by one and set one after the other. -/
theorem arguments_eq_ok_iff {env : Environment} {earlier result : Arguments} {entries : List (Tree × Tree)} :
    (arguments env earlier entries).outcome = .ok result ↔
      ∃ pairs, List.Forall₂ (Converts env) entries pairs ∧
        result = pairs.foldl (fun entries pair => entries.insert pair.1 pair.2) earlier := by
  induction entries generalizing earlier with
  | nil =>
    rw [arguments]
    constructor
    · exact fun same => ⟨[], .nil, (Except.ok.inj same).symm⟩
    · rintro ⟨_, ⟨⟩, rfl⟩
      rfl
  | cons entry rest ih =>
    obtain ⟨key, item⟩ := entry
    rw [arguments, Run.outcome_bind_eq_ok_iff]
    constructor
    · intro converted
      obtain ⟨name, named, success⟩ := converted
      obtain ⟨first, here, success⟩ := Run.outcome_bind_eq_ok_iff.mp success
      obtain ⟨pairs, later, rfl⟩ := ih.mp success
      exact ⟨(name, first) :: pairs, .cons ⟨named, here⟩ later, rfl⟩
    · intro pieces
      obtain ⟨_, converts, rfl⟩ := pieces
      cases converts with
      | cons first later =>
        exact ⟨_, first.1, Run.outcome_bind_eq_ok_iff.mpr ⟨_, first.2, ih.mpr ⟨_, later, rfl⟩⟩⟩

theorem value_mapping_eq_ok_iff {env : Environment} {entries : List (Tree × Tree)} {result : Value} :
    (value env (.mapping entries)).outcome = .ok result ↔
      ∃ pairs, result = .mapping (Entries.ofList pairs) ∧ List.Forall₂ (Converts env) entries pairs := by
  rw [value, Run.outcome_bind_eq_ok_iff]
  constructor
  · intro converted
    obtain ⟨_, success, same⟩ := converted
    obtain ⟨pairs, converts, rfl⟩ := arguments_eq_ok_iff.mp success
    exact ⟨pairs, (Except.ok.inj same).symm, converts⟩
  · intro pieces
    obtain ⟨pairs, rfl, converts⟩ := pieces
    exact ⟨_, arguments_eq_ok_iff.mpr ⟨pairs, converts, rfl⟩, rfl⟩

theorem value_sequence_eq_ok_iff {env : Environment} {items : List Tree} {result : Value} :
    (value env (.sequence items)).outcome = .ok result ↔
      ∃ results, result = .sequence results ∧
        List.Forall₂ (fun item result => (value env item).outcome = .ok result) items results := by
  rw [value, Run.outcome_bind_eq_ok_iff]
  constructor
  · intro converted
    obtain ⟨results, success, same⟩ := converted
    exact ⟨results, (Except.ok.inj same).symm, values_eq_ok_iff.mp success⟩
  · intro pieces
    obtain ⟨results, rfl, each⟩ := pieces
    exact ⟨results, values_eq_ok_iff.mpr each, rfl⟩

end Overlay.Conversion
