import Mathlib
import Overlay.Proofs.GivenValues
import Overlay.Proofs.PlaceholderPieces
import Overlay.Proofs.ValueFolds
import Overlay.Report

namespace Overlay

open Yaml (Tree)

theorem Yaml.Tree.mergeEntries_of_no_mergeKey {entries : List (Tree × Tree)}
    (ordinary : ∀ entry ∈ entries, entry.1.isMergeKey = false) : mergeEntries entries = .ok entries := by
  cases taken : takeMergeKey entries with
  | none => rw [mergeEntries, taken]
  | some found =>
    obtain ⟨before, key, after, whole, isKey, _⟩ := takeMergeKey_eq_some taken
    have here : (key, found.1) ∈ entries := whole ▸ List.mem_append_right before List.mem_cons_self
    rw [ordinary _ here] at isKey
    cases isKey

namespace Value

mutual

/-- The document that a value is written as. -/
def tree : Value → Tree
  | .null => .null
  | .bool value => .bool value
  | .integer value => .integer value.toInt
  | .float value => .float value
  | .string text => .string text
  | .sequence items => .sequence (itemTrees items)
  | .mapping entries => .mapping (entryTrees entries)

def itemTrees : List Value → List Tree
  | [] => []
  | item :: rest => item.tree :: itemTrees rest

def entryTrees : List (String × Value) → List (Tree × Tree)
  | [] => []
  | (name, value) :: rest => (.string name, value.tree) :: entryTrees rest

end

theorem tree_sequence (items : List Value) : (Value.sequence items).tree = .sequence (items.map tree) := by
  rw [tree]
  refine congrArg Tree.sequence ?_
  induction items with
  | nil => rfl
  | cons item rest ih => rw [itemTrees, ih, List.map_cons]

theorem tree_mapping (entries : Arguments) :
    (Value.mapping entries).tree = .mapping (entries.map fun entry => (.string entry.1, entry.2.tree)) := by
  rw [tree]
  refine congrArg Tree.mapping ?_
  induction entries with
  | nil => rfl
  | cons entry rest ih => rw [entryTrees, ih, List.map_cons]

/-- Distinct names, none of which is the merge key or refers to a variable. -/
def literalNames (names : List String) : Bool :=
  names.Nodup && names.all fun name => name != "<<" && (Placeholder.names name).isEmpty

/-- No mapping in the value has a name twice or the merge key, and no name and
no string refers to a variable. -/
def isLiteral : Value → Bool :=
  fold
    (fun
      | .string text => (Placeholder.names text).isEmpty
      | _ => true)
    (fun items => items.all id)
    (fun entries => literalNames (Entries.keys entries) && entries.all Prod.snd)

/-- The value with one NaN in the place of all. -/
def withOneNaN : Value → Value :=
  mapLeaves fun
    | .float x => .float (if x.isNaN then .nan else x)
    | leaf => leaf

theorem isLiteral_sequence_iff {items : List Value} :
    (Value.sequence items).isLiteral = true ↔ ∀ item ∈ items, item.isLiteral = true := by
  rw [isLiteral, fold_sequence, List.all_map, List.all_eq_true]
  rfl

theorem isLiteral_mapping_iff {entries : Arguments} :
    (Value.mapping entries).isLiteral = true ↔
      literalNames entries.keys = true ∧ ∀ entry ∈ entries, entry.2.isLiteral = true := by
  rw [isLiteral, fold_mapping, Bool.and_eq_true, List.all_map, List.all_eq_true]
  rw [Entries.keys_map entries fun _ value => fold _ _ _ value]
  rfl

/-- Names are literal if they are distinct, none is the merge key and none has a
reference in it: the three reasons for which an entry may not come back as it
was. -/
theorem literalNames_iff {names : List String} :
    literalNames names = true ↔ names.Nodup ∧ ∀ name ∈ names, name ≠ "<<" ∧ Placeholder.names name = [] := by
  simp [literalNames]

/-- Making all values that are not a number one leaves the names and the strings
alone, on which it depends whether a value is literal. -/
theorem isLiteral_withOneNaN (value : Value) : value.withOneNaN.isLiteral = value.isLiteral := by
  refine fold_mapLeaves (fun leaf noSequence noMapping => ?_) value
  cases leaf with
  | sequence items => exact absurd rfl noSequence
  | mapping entries => exact absurd rfl noMapping
  | _ => rfl

theorem kind_withOneNaN (value : Value) : value.withOneNaN.kind = value.kind := by
  cases value <;> rfl

/-- A value without references and merge keys is what its document gives. -/
theorem gives_tree {value : Value} (literal : value.isLiteral = true) (env : Environment) :
    Loading.Gives env value.tree value := by
  induction value using memberInduction with
  | null => exact Loading.gives_null_iff.mpr rfl
  | bool b => exact Loading.gives_bool_iff.mpr rfl
  | float x => exact Loading.gives_float_iff.mpr rfl
  | integer n =>
    refine Loading.gives_integer_iff.mpr ⟨?_, by rw [Int64.ofInt_toInt]⟩
    rw [Conversion.inRange, Bool.and_eq_true, decide_eq_true_eq, decide_eq_true_eq]
    exact ⟨Int64.le_toInt n, Int64.toInt_lt n⟩
  | string text =>
    refine Loading.gives_string_iff.mpr ⟨text, ?_, rfl⟩
    rw [Placeholder.substitute_of_names_eq_nil env (List.isEmpty_iff.mp literal)]
    rfl
  | sequence items ih =>
    rw [isLiteral_sequence_iff] at literal
    rw [tree_sequence]
    refine Loading.gives_sequence_iff.mpr ⟨items, rfl, ?_⟩
    rw [List.forall₂_map_left_iff, List.forall₂_same]
    exact fun item member => ih item member (literal item member)
  | mapping entries ih =>
    obtain ⟨names, values⟩ := isLiteral_mapping_iff.mp literal
    obtain ⟨distinct, plain⟩ := literalNames_iff.mp names
    have named : ∀ entry ∈ entries, entry.1 ≠ "<<" ∧ Placeholder.names entry.1 = [] := fun entry member =>
      plain entry.1 (List.mem_map_of_mem (f := Prod.fst) member)
    rw [tree_mapping]
    refine Loading.gives_mapping_iff.mpr ⟨_, entries, Tree.mergeEntries_of_no_mergeKey ?_, ?_, ?_⟩
    · intro pair member
      obtain ⟨entry, inEntries, rfl⟩ := List.mem_map.mp member
      exact beq_false_of_ne (named entry inEntries).1
    · rw [Entries.ofList_of_nodup distinct]
    · rw [List.forall₂_map_left_iff, List.forall₂_same]
      refine fun entry member => ⟨?_, ih entry member (values entry member)⟩
      rw [Conversion.keyName, Placeholder.substitute_of_names_eq_nil env (named entry member).2]
      rfl

end Value

/-- What was printed as YAML is read as the same arguments, if the reader finds
the document that was printed; a NaN may come back with other bits. -/
theorem parseArguments_print {arguments : Arguments} (literal : (Value.mapping arguments).isLiteral = true)
    {copy : Value} (same : copy.withOneNaN = (Value.mapping arguments).withOneNaN)
    (read : Tree.read (Format.yaml.print arguments) = .ok copy.tree) (env : Environment) :
    ∃ result, (parseArguments env (Format.yaml.print arguments)).outcome = .ok result ∧
      (Value.mapping result).withOneNaN = (Value.mapping arguments).withOneNaN := by
  have copyLiteral : copy.isLiteral = true := by
    rw [← Value.isLiteral_withOneNaN, same, Value.isLiteral_withOneNaN, literal]
  have gives := Value.gives_tree copyLiteral env
  have kind : copy.kind = .mapping := by
    rw [← Value.kind_withOneNaN, same]
    rfl
  obtain ⟨result, rfl⟩ := Value.kind_eq_mapping_iff.mp kind
  exact ⟨result, Loading.outcome_ofText_eq_ok_iff.mpr ⟨_, read, Or.inl gives⟩, same⟩

/-- Nested arguments, one of them a NaN. -/
def Arguments.withNaN (nan : Double) : Arguments :=
  [("a", .sequence [.float nan, .integer (-1), .null]), ("b", .mapping [("x", .string "1")])]

/-- A NaN with a sign and other bits than the one that is read. -/
def Double.signedNaN : Double := ⟨0xFFF8000000000001⟩

theorem print_withNaN : Format.yaml.print (Arguments.withNaN .signedNaN) =
    "a:\n- .nan\n- -1\n- null\nb:\n  x: '1'\n" := by cbv

theorem read_withNaN : Tree.read "a:\n- .nan\n- -1\n- null\nb:\n  x: '1'\n" =
    .ok (Value.mapping (Arguments.withNaN .nan)).tree := by cbv

theorem parseArguments_print_withNaN :
    ((Value.mapping (Arguments.withNaN .signedNaN)).isLiteral = true ∧
      (Value.mapping (Arguments.withNaN .nan)).withOneNaN = (Value.mapping (Arguments.withNaN .signedNaN)).withOneNaN ∧
      Tree.read (Format.yaml.print (Arguments.withNaN .signedNaN)) =
        .ok (Value.mapping (Arguments.withNaN .nan)).tree) ∧
      ∃ result,
        (parseArguments (fun _ => none) (Format.yaml.print (Arguments.withNaN .signedNaN))).outcome = .ok result ∧
        (Value.mapping result).withOneNaN = (Value.mapping (Arguments.withNaN .signedNaN)).withOneNaN := by
  have literal : (Value.mapping (Arguments.withNaN .signedNaN)).isLiteral = true := by cbv
  have same : (Value.mapping (Arguments.withNaN .nan)).withOneNaN =
      (Value.mapping (Arguments.withNaN .signedNaN)).withOneNaN := rfl
  have read : Tree.read (Format.yaml.print (Arguments.withNaN .signedNaN)) =
      .ok (Value.mapping (Arguments.withNaN .nan)).tree := by rw [print_withNaN, read_withNaN]
  exact ⟨⟨literal, same, read⟩, parseArguments_print literal same read _⟩

end Overlay
