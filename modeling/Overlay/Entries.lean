namespace Overlay

/-- Named values in the order in which the names were first set. -/
abbrev Entries (α : Type) := List (String × α)

namespace Entries

variable {α : Type}

def keys (entries : Entries α) : List String := entries.map Prod.fst

/-- The value of the first entry with this name. -/
def get? : Entries α → String → Option α
  | [], _ => none
  | (key, value) :: rest, name => if key = name then some value else get? rest name

def contains (entries : Entries α) (name : String) : Bool := (entries.get? name).isSome

/-- Sets a name: a name that is there keeps its place, a new one comes last. -/
def insert : Entries α → String → α → Entries α
  | [], name, value => [(name, value)]
  | (key, old) :: rest, name, value =>
    if key = name then (key, value) :: rest else (key, old) :: insert rest name value

/-- Removes a name; the others keep their order. -/
def erase : Entries α → String → Entries α
  | [], _ => []
  | (key, value) :: rest, name => if key = name then rest else (key, value) :: erase rest name

/-- Sets the pairs one after the other: of a repeated name the first place and
the last value stay. -/
def ofList (pairs : List (String × α)) : Entries α :=
  pairs.foldl (fun entries pair => entries.insert pair.1 pair.2) []

@[simp] theorem get?_nil (name : String) : get? ([] : Entries α) name = none := rfl

theorem get?_insert_self (entries : Entries α) (name : String) (value : α) :
    (entries.insert name value).get? name = some value := by
  induction entries with
  | nil => simp [insert, get?]
  | cons entry rest ih =>
    obtain ⟨key, old⟩ := entry
    by_cases same : key = name
    · simp [insert, get?, same]
    · simpa [insert, get?, same] using ih

theorem get?_insert_of_ne (entries : Entries α) {name other : String} (value : α)
    (different : name ≠ other) : (entries.insert name value).get? other = entries.get? other := by
  induction entries with
  | nil => simp [insert, get?, different]
  | cons entry rest ih =>
    obtain ⟨key, old⟩ := entry
    by_cases same : key = name
    · subst same
      simp [insert, get?, different]
    · by_cases hit : key = other
      · rw [insert, if_neg same, get?, if_pos hit, get?, if_pos hit]
      · simpa [insert, get?, same, hit] using ih

theorem get?_eq_none_iff (entries : Entries α) (name : String) :
    entries.get? name = none ↔ name ∉ entries.keys := by
  induction entries with
  | nil => simp [keys]
  | cons entry rest ih =>
    obtain ⟨key, old⟩ := entry
    simp only [keys, List.map_cons, List.mem_cons, not_or] at ih ⊢
    by_cases same : key = name
    · simp [get?, same]
    · rw [get?, if_neg same, ih]
      exact ⟨fun absent => ⟨fun h => same h.symm, absent⟩, And.right⟩

theorem keys_insert_of_mem {entries : Entries α} {name : String} (value : α)
    (member : name ∈ entries.keys) : (entries.insert name value).keys = entries.keys := by
  induction entries with
  | nil => simp [keys] at member
  | cons entry rest ih =>
    obtain ⟨key, old⟩ := entry
    by_cases same : key = name
    · simp [insert, keys, same]
    · have inRest : name ∈ keys rest := by
        rcases List.mem_cons.mp member with first | later
        · exact absurd first.symm same
        · exact later
      have tail := ih inRest
      simp only [keys] at tail
      simp [insert, keys, same, tail]

theorem keys_insert_of_not_mem {entries : Entries α} {name : String} (value : α)
    (absent : name ∉ entries.keys) : (entries.insert name value).keys = entries.keys ++ [name] := by
  induction entries with
  | nil => simp [insert, keys]
  | cons entry rest ih =>
    obtain ⟨key, old⟩ := entry
    simp only [keys, List.map_cons, List.mem_cons, not_or] at absent
    have tail := ih (by simpa only [keys] using absent.2)
    simp only [keys] at tail
    simp [insert, keys, Ne.symm absent.1, tail]

end Entries

end Overlay
