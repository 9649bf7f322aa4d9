import Mathlib
import Overlay.Proofs.JsonOutput

namespace Overlay

namespace Json

/-- The tree has the shape of the value and the same names, strings and truth
values; integers are integers in it, floats are numbers, and null is there for
null alone. -/
inductive Keeps : Value → Tree → Prop
  | null : Keeps .null .null
  | bool (b : Bool) : Keeps (.bool b) (.bool b)
  | integer {n : Int64} {literal : List Char} (integer : isInteger literal = true)
    (value : (String.ofList literal).toInt? = some n.toInt) : Keeps (.integer n) (.number literal)
  | float {x : Double} {literal : List Char} (number : isNumber literal = true) : Keeps (.float x) (.number literal)
  | string (text : String) : Keeps (.string text) (.string text)
  | sequence {items : List Value} {trees : List Tree} (each : List.Forall₂ Keeps items trees) :
    Keeps (.sequence items) (.array trees)
  | mapping {entries : Arguments} {members : List (String × Tree)} (names : entries.keys = members.map Prod.fst)
    (each : List.Forall₂ Keeps (entries.map Prod.snd) (members.map Prod.snd)) :
    Keeps (.mapping entries) (.object members)

/-- The printed arguments denote a tree that keeps them. -/
def KeepsData (arguments : Arguments) : Prop :=
  ∃ tree, Denotes (Format.json.print arguments) tree ∧ Keeps (.mapping arguments) tree

end Json

/-- No float in the value is infinite or a NaN. -/
def Value.isFinite : Value → Bool :=
  fold
    (fun
      | .float x => x.isFinite
      | _ => true)
    (fun items => items.all id)
    (fun entries => entries.all Prod.snd)

namespace Json

theorem keeps_sequence_iff {items : List Value} {trees : List Tree} :
    Keeps (.sequence items) (.array trees) ↔ List.Forall₂ Keeps items trees := by
  constructor
  · rintro ⟨⟩
    assumption
  · exact .sequence

theorem keeps_mapping_iff {entries : Arguments} {members : List (String × Tree)} :
    Keeps (.mapping entries) (.object members) ↔ entries.keys = members.map Prod.fst ∧
      List.Forall₂ Keeps (entries.map Prod.snd) (members.map Prod.snd) := by
  constructor
  · rintro ⟨⟩
    exact ⟨‹_›, ‹_›⟩
  · exact fun ⟨names, each⟩ => .mapping names each

/-- The tree of a value keeps it if and only if all floats have numbers. -/
theorem keeps_ofValue_iff (value : Value) : Keeps value (.ofValue value) ↔ value.isFinite = true := by
  induction value using Value.memberInduction with
  | null => exact iff_of_true .null rfl
  | bool b => exact iff_of_true (.bool b) rfl
  | string text => exact iff_of_true (.string text) rfl
  | integer n =>
    have value : (String.ofList (toString n.toInt).toList).toInt? = some n.toInt := by
      rw [String.ofList_toList]
      exact Int.toInt?_repr n.toInt
    exact iff_of_true (.integer (isInteger_toString n.toInt) value) rfl
  | float x =>
    have shape : Tree.ofValue (.float x) = if x.isFinite then .number (floatNotation.finite x) else .null := rfl
    have finite : (Value.float x).isFinite = x.isFinite := rfl
    rw [shape, finite]
    split
    case isTrue yes => exact iff_of_true (.float (isNumber_finite x)) yes
    case isFalse no => exact iff_of_false nofun no
  | sequence items ih =>
    rw [Tree.ofValue_sequence, keeps_sequence_iff, List.forall₂_map_right_iff, List.forall₂_same, Value.isFinite,
      Value.fold_sequence, List.all_map, List.all_eq_true]
    exact forall₂_congr ih
  | mapping entries ih =>
    rw [Tree.ofValue_mapping, keeps_mapping_iff, List.map_map, List.map_map, List.forall₂_map_left_iff,
      List.forall₂_map_right_iff, List.forall₂_same, Value.isFinite, Value.fold_mapping, List.all_map, List.all_eq_true]
    exact (and_iff_right rfl).trans (forall₂_congr ih)

/-- The printed text keeps the data exactly if the tree that was made of it
does: the text denotes that tree and no other. -/
theorem keepsData_iff (arguments : Arguments) :
    KeepsData arguments ↔ Keeps (.mapping arguments) (.ofValue (.mapping arguments)) := by
  constructor
  · rintro ⟨tree, denotes, keeps⟩
    rwa [denotes_print_iff.mp denotes] at keeps
  · exact fun keeps => ⟨_, denotes_print_iff.mpr rfl, keeps⟩

/-- The text of the arguments denotes their tree, in which null stands for the
floats that are not finite, and no other one. It keeps the arguments if and only
if there are no such floats; it is never refused. -/
theorem keepsData_iff_isFinite (arguments : Arguments) :
    (∀ tree, Denotes (Format.json.print arguments) tree ↔ tree = .ofValue (.mapping arguments)) ∧
      (KeepsData arguments ↔ (Value.mapping arguments).isFinite = true) :=
  ⟨fun _ => denotes_print_iff, (keepsData_iff arguments).trans (keeps_ofValue_iff _)⟩

/-- A NaN is printed as null. -/
theorem not_keepsData_nan : Format.json.print [("a", .float .nan)] = "\x7b\n  \"a\": null\n\x7d\n" ∧
    ¬ KeepsData [("a", .float .nan)] := by
  refine ⟨by cbv, fun keeps => ?_⟩
  have finite := (keeps_ofValue_iff _).mp ((keepsData_iff _).mp keeps)
  revert finite
  decide

end Json

end Overlay
