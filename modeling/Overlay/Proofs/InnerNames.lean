import Overlay.Value

namespace Overlay.Value

mutual

/-- Whether some mapping inside the value has this name. -/
def hasName (name : String) : Value → Bool
  | .sequence items => hasNameItems name items
  | .mapping entries => hasNameEntries name entries
  | _ => false

def hasNameItems (name : String) : List Value → Bool
  | [] => false
  | item :: rest => hasName name item || hasNameItems name rest

def hasNameEntries (name : String) : List (String × Value) → Bool
  | [] => false
  | (key, value) :: rest => key == name || hasName name value || hasNameEntries name rest

end

theorem hasName_sequence_iff {name : String} {items : List Value} :
    (Value.sequence items).hasName name = true ↔ ∃ item ∈ items, item.hasName name = true := by
  rw [hasName]
  induction items with
  | nil => simp [hasNameItems]
  | cons item rest ih => simp [hasNameItems, ih]

/-- A mapping has a name if it is one of its own or one of a mapping inside. -/
theorem hasName_mapping_iff {name : String} {entries : Arguments} :
    (Value.mapping entries).hasName name = true ↔
      name ∈ entries.keys ∨ ∃ entry ∈ entries, entry.2.hasName name = true := by
  rw [hasName]
  induction entries with
  | nil => simp [hasNameEntries, Entries.keys]
  | cons entry rest ih =>
    obtain ⟨key, value⟩ := entry
    rw [Entries.keys] at ih
    simp only [hasNameEntries, Bool.or_eq_true, beq_iff_eq, ih, Entries.keys, List.map_cons, List.mem_cons,
      exists_eq_or_imp, @eq_comm _ key name, or_assoc, @or_left_comm (value.hasName name = true)]

end Overlay.Value
