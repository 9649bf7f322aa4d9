import Mathlib.Data.List.Forall2
import Overlay.Proofs.MemberInduction
import Overlay.Proofs.RelatedArguments

namespace Overlay

theorem map_eq_map_iff_forall₂ {α β γ : Type} {f : α → γ} {g : β → γ} {xs : List α} {ys : List β} :
    xs.map f = ys.map g ↔ List.Forall₂ (fun x y => f x = g y) xs ys := by
  rw [← List.forall₂_eq_eq_eq, List.forall₂_map_left_iff, List.forall₂_map_right_iff]

namespace Value

section Fold

variable {α : Type} (leaf : Value → α) (sequence : List α → α) (mapping : List (String × α) → α)

mutual

/-- What a value comes to, from its leaves upwards. -/
def fold : Value → α
  | .sequence items => sequence (foldItems items)
  | .mapping entries => mapping (foldEntries entries)
  | value => leaf value

def foldItems : List Value → List α
  | [] => []
  | item :: rest => fold item :: foldItems rest

def foldEntries : List (String × Value) → List (String × α)
  | [] => []
  | (name, value) :: rest => (name, fold value) :: foldEntries rest

end

/-- The recursion goes through the items by a function of its own; here it is
the map that it amounts to. -/
theorem fold_sequence (items : List Value) :
    fold leaf sequence mapping (.sequence items) = sequence (items.map (fold leaf sequence mapping)) := by
  rw [fold]
  refine congrArg sequence ?_
  induction items with
  | nil => rfl
  | cons item rest ih => rw [foldItems, ih, List.map_cons]

/-- The same for entries, whose names stay beside what the values fold to. -/
theorem fold_mapping (entries : Arguments) : fold leaf sequence mapping (.mapping entries) =
    mapping (entries.map fun entry => (entry.1, fold leaf sequence mapping entry.2)) := by
  rw [fold]
  refine congrArg mapping ?_
  induction entries with
  | nil => rfl
  | cons entry rest ih => rw [foldEntries, ih, List.map_cons]

end Fold

/-- Changes the leaves; names, order and nesting stay. -/
def mapLeaves (change : Value → Value) : Value → Value := fold change .sequence .mapping

theorem mapLeaves_sequence (change : Value → Value) (items : List Value) :
    (Value.sequence items).mapLeaves change = .sequence (items.map (mapLeaves change)) := fold_sequence ..

theorem mapLeaves_mapping (change : Value → Value) (entries : Arguments) :
    (Value.mapping entries).mapLeaves change =
      .mapping (entries.map fun entry => (entry.1, entry.2.mapLeaves change)) :=
  fold_mapping ..

/-- Two sequences are alike up to a change of leaves if their items are, one by
one. -/
theorem mapLeaves_sequence_eq_iff {change : Value → Value} {items others : List Value} :
    (Value.sequence items).mapLeaves change = (Value.sequence others).mapLeaves change ↔
      List.Forall₂ (fun v w => v.mapLeaves change = w.mapLeaves change) items others := by
  rw [mapLeaves_sequence, mapLeaves_sequence, Value.sequence.injEq, map_eq_map_iff_forall₂]

/-- Two mappings are alike up to a change of leaves if they have the same names
in the same order and values that are alike. -/
theorem mapLeaves_mapping_eq_iff {change : Value → Value} {entries others : Arguments} :
    (Value.mapping entries).mapLeaves change = (Value.mapping others).mapLeaves change ↔
      Entries.Related (fun v w => v.mapLeaves change = w.mapLeaves change) entries others := by
  rw [mapLeaves_mapping, mapLeaves_mapping, Value.mapping.injEq, map_eq_map_iff_forall₂]
  simp only [Prod.mk.injEq, Entries.Related]

/-- What is the same for changed leaves is the same for the whole value. -/
theorem fold_mapLeaves {α : Type} {leaf : Value → α} {sequence : List α → α} {mapping : List (String × α) → α}
    {change : Value → Value}
    (keeps : ∀ value : Value, value.kind ≠ .sequence → value.kind ≠ .mapping →
      fold leaf sequence mapping (change value) = fold leaf sequence mapping value) (value : Value) :
    fold leaf sequence mapping (value.mapLeaves change) = fold leaf sequence mapping value := by
  induction value using Value.memberInduction with
  | sequence items ih =>
    rw [mapLeaves_sequence, fold_sequence, fold_sequence, List.map_map]
    exact congrArg sequence (List.map_congr_left ih)
  | mapping entries ih =>
    rw [mapLeaves_mapping, fold_mapping, fold_mapping, List.map_map]
    refine congrArg mapping (List.map_congr_left fun entry member => ?_)
    rw [Function.comp_apply, ih entry member]
  | _ => exact keeps _ nofun nofun

end Value

end Overlay
