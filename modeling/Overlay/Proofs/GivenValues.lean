import Overlay.Loading
import Overlay.Proofs.ConvertedEntries
import Overlay.Proofs.MergeExpansion
import Overlay.Proofs.RelatedLists

namespace Overlay.Loading

open Yaml (Tree)

/-- With its merge keys carried out the tree converts to the value. -/
def Gives (env : Environment) (tree : Tree) (value : Value) : Prop :=
  ∃ expanded, tree.expandMerges = .ok expanded ∧ (Conversion.value env expanded).outcome = .ok value

/-- What an entry of a mapping gives: its key becomes a name, which may need
variables, and its item a value. -/
def GivesPair (env : Environment) (entry : Tree × Tree) (pair : String × Value) : Prop :=
  (Conversion.keyName env entry.1).outcome = .ok pair.1 ∧ Gives env entry.2 pair.2

variable {env : Environment}

/-- Where no merge key has to be carried out any more, a tree gives what its
conversion comes to. -/
theorem gives_iff_converts {tree : Tree} {value : Value} (unchanged : tree.expandMerges = .ok tree) :
    Gives env tree value ↔ (Conversion.value env tree).outcome = .ok value := by
  simp only [Gives, unchanged, Except.ok.injEq, exists_eq_left']

theorem gives_null_iff {value : Value} : Gives env .null value ↔ value = .null := by
  rw [gives_iff_converts rfl, Conversion.value]
  exact ⟨fun same => (Except.ok.inj same).symm, fun same => congrArg Except.ok same.symm⟩

theorem gives_bool_iff {b : Bool} {value : Value} : Gives env (.bool b) value ↔ value = .bool b := by
  rw [gives_iff_converts rfl, Conversion.value]
  exact ⟨fun same => (Except.ok.inj same).symm, fun same => congrArg Except.ok same.symm⟩

theorem gives_float_iff {x : Double} {value : Value} : Gives env (.float x) value ↔ value = .float x := by
  rw [gives_iff_converts rfl, Conversion.value]
  exact ⟨fun same => (Except.ok.inj same).symm, fun same => congrArg Except.ok same.symm⟩

/-- An integer gives a value only within 64 bits. This is the one leaf that can
fail. -/
theorem gives_integer_iff {n : Int} {value : Value} :
    Gives env (.integer n) value ↔ Conversion.inRange n = true ∧ value = .integer (Int64.ofInt n) := by
  rw [gives_iff_converts rfl, Conversion.value]
  cases Conversion.inRange n <;> simp [Run.fail, eq_comm]

/-- A string gives its text with all references replaced. -/
theorem gives_string_iff {text : String} {value : Value} :
    Gives env (.string text) value ↔
      ∃ expanded, (Placeholder.substitute env text).outcome = .ok expanded ∧ value = .string expanded := by
  rw [gives_iff_converts rfl, Conversion.value, Run.outcome_bind_eq_ok_iff]
  simp [eq_comm]

/-- A mapping gives values in two steps: its merge keys are carried out first,
and then the entries that there are give pairs, of which a later one replaces an
earlier one of the same name. -/
theorem gives_mapping_iff {entries : List (Tree × Tree)} {value : Value} :
    Gives env (.mapping entries) value ↔
      ∃ merged pairs, Tree.mergeEntries entries = .ok merged ∧ value = .mapping (Entries.ofList pairs) ∧
        List.Forall₂ (GivesPair env) merged pairs := by
  have pointwise : (fun entry pair => ∃ result : Tree × Tree,
      (result.1 = entry.1 ∧ entry.2.expandMerges = .ok result.2) ∧ Conversion.Converts env result pair) =
        GivesPair env := by
    funext entry pair
    refine propext ⟨?_, ?_⟩
    · intro gives
      obtain ⟨result, ⟨sameKey, expanded⟩, named, converts⟩ := gives
      exact ⟨sameKey ▸ named, result.2, expanded, converts⟩
    · intro gives
      obtain ⟨named, expanded, success, converts⟩ := gives
      exact ⟨(entry.1, expanded), ⟨rfl, success⟩, named, converts⟩
  simp only [Gives, Tree.expandMerges_mapping_eq_ok_iff]
  constructor
  · intro gives
    obtain ⟨_, ⟨merged, expanded, success, rfl, each⟩, converts⟩ := gives
    obtain ⟨pairs, rfl, values⟩ := Conversion.value_mapping_eq_ok_iff.mp converts
    exact ⟨merged, pairs, success, rfl, pointwise ▸ exists_forall₂_iff.mp ⟨expanded, each, values⟩⟩
  · intro pieces
    obtain ⟨merged, pairs, success, rfl, each⟩ := pieces
    obtain ⟨expanded, each, converts⟩ := exists_forall₂_iff.mpr (pointwise ▸ each)
    exact ⟨.mapping expanded, ⟨merged, expanded, success, rfl, each⟩,
      Conversion.value_mapping_eq_ok_iff.mpr ⟨pairs, rfl, converts⟩⟩

theorem gives_sequence_iff {items : List Tree} {value : Value} :
    Gives env (.sequence items) value ↔
      ∃ results, value = .sequence results ∧ List.Forall₂ (Gives env) items results := by
  simp only [Gives, Tree.expandMerges_sequence_eq_ok_iff]
  constructor
  · intro gives
    obtain ⟨_, ⟨expanded, rfl, each⟩, converts⟩ := gives
    obtain ⟨results, rfl, values⟩ := Conversion.value_sequence_eq_ok_iff.mp converts
    exact ⟨results, rfl, exists_forall₂_iff.mp ⟨expanded, each, values⟩⟩
  · intro pieces
    obtain ⟨results, rfl, each⟩ := pieces
    obtain ⟨expanded, each, converts⟩ := exists_forall₂_iff.mpr each
    exact ⟨.sequence expanded, ⟨expanded, rfl, each⟩, Conversion.value_sequence_eq_ok_iff.mpr ⟨results, rfl, converts⟩⟩

/-- A tag has no part in what a tree gives. -/
theorem gives_tagged_iff {tag : String} {content : Tree} {value : Value} :
    Gives env (.tagged tag content) value ↔ Gives env content value := by
  simp only [Gives, Tree.expandMerges_tagged_eq_ok_iff]
  constructor
  · intro gives
    obtain ⟨_, ⟨expanded, rfl, success⟩, converts⟩ := gives
    exact ⟨expanded, success, by rwa [Conversion.value] at converts⟩
  · intro gives
    obtain ⟨expanded, success, converts⟩ := gives
    exact ⟨.tagged tag expanded, ⟨expanded, rfl, success⟩, by rwa [Conversion.value]⟩

theorem gives_withTag_iff {tag : Option Yaml.Octets} {content : Tree} {value : Value} :
    Gives env (Tree.withTag tag content) value ↔ Gives env content value := by
  unfold Tree.withTag
  split
  · exact gives_tagged_iff
  · exact Iff.rfl

/-- A text has arguments if its tree gives a mapping, and none if its tree gives
null. -/
theorem outcome_ofText_eq_ok_iff {origin text : String} {result : Arguments} :
    (ofText env origin text).outcome = .ok result ↔
      ∃ tree, Tree.read text = .ok tree ∧
        (Gives env tree (.mapping result) ∨ Gives env tree .null ∧ result = []) := by
  have loaded : ∀ expanded, Loading.tree text = .ok expanded ↔
      ∃ tree, Tree.read text = .ok tree ∧ tree.expandMerges = .ok expanded := fun _ => exceptBind_eq_ok_iff
  have found : (ofText env origin text).outcome = .ok result ↔
      ∃ expanded value, Loading.tree text = .ok expanded ∧ (Conversion.value env expanded).outcome = .ok value ∧
        (value = .mapping result ∨ value = .null ∧ result = []) := by
    unfold ofText
    cases Loading.tree text with
    | error fault => simp [Run.fail]
    | ok expanded =>
      simp only [Run.outcome_bind_eq_ok_iff, Except.ok.injEq, exists_and_left, exists_eq_left']
      refine exists_congr fun value => and_congr_right fun _ => ?_
      cases value <;> simp [Run.note, Run.fail, eq_comm]
  rw [found]
  constructor
  · intro loads
    obtain ⟨expanded, value, success, converts, same⟩ := loads
    obtain ⟨tree, read, expands⟩ := (loaded expanded).mp success
    rcases same with rfl | ⟨rfl, empty⟩
    · exact ⟨tree, read, Or.inl ⟨expanded, expands, converts⟩⟩
    · exact ⟨tree, read, Or.inr ⟨⟨expanded, expands, converts⟩, empty⟩⟩
  · intro loads
    obtain ⟨tree, read, ⟨expanded, expands, converts⟩ | ⟨⟨expanded, expands, converts⟩, empty⟩⟩ := loads
    · exact ⟨expanded, _, (loaded expanded).mpr ⟨tree, read, expands⟩, converts, Or.inl rfl⟩
    · exact ⟨expanded, _, (loaded expanded).mpr ⟨tree, read, expands⟩, converts, Or.inr ⟨rfl, empty⟩⟩

/-- A tree gives one value in an environment, as both steps are computed. -/
theorem Gives.unique {tree : Tree} {first second : Value} (gives : Gives env tree first)
    (again : Gives env tree second) : first = second := by
  obtain ⟨expanded, expands, converts⟩ := gives
  obtain ⟨_, same, convertsAgain⟩ := again
  cases expands.symm.trans same
  exact Except.ok.inj (converts.symm.trans convertsAgain)

end Overlay.Loading
