import Overlay.Entries

namespace Overlay.Entries

variable {α : Type}

theorem get?_cons (key : String) (value : α) (rest : Entries α) (name : String) :
    get? ((key, value) :: rest) name = if key = name then some value else get? rest name := rfl

/-- A name is looked up in the front first; an entry of the same name behind it
is hidden. Stated for all lists, those with a name twice included. -/
theorem get?_append (front back : Entries α) (name : String) :
    get? (front ++ back) name = (get? front name).or (get? back name) := by
  induction front with
  | nil => rfl
  | cons entry rest ih =>
    obtain ⟨key, value⟩ := entry
    by_cases same : key = name
    · simp [get?_cons, same]
    · simpa [get?_cons, same] using ih

/-- Changing the values, each with regard to its name, is seen by a look-up only
in what it finds: places and names stay. -/
theorem get?_map {β : Type} (entries : Entries α) (f : String → α → β) (name : String) :
    get? (entries.map fun entry => (entry.1, f entry.1 entry.2)) name = (get? entries name).map (f name) := by
  induction entries with
  | nil => rfl
  | cons entry rest ih =>
    obtain ⟨key, value⟩ := entry
    by_cases same : key = name
    · simp [get?_cons, same]
    · simpa [get?_cons, same] using ih

theorem keys_map {β : Type} (entries : Entries α) (f : String → α → β) :
    keys (entries.map fun entry => (entry.1, f entry.1 entry.2)) = keys entries := by
  simp [keys]

/-- Removing entries by their names does not uncover others: whoever has a
removed name goes as well. -/
theorem get?_filter_key (entries : Entries α) (p : String → Bool) (name : String) :
    get? (entries.filter fun entry => p entry.1) name = if p name then get? entries name else none := by
  induction entries with
  | nil => simp
  | cons entry rest ih =>
    obtain ⟨key, value⟩ := entry
    by_cases same : key = name
    · subst same
      cases kept : p key <;> simp_all [get?_cons]
    · cases kept : p key <;> simp_all [get?_cons]

theorem mem_of_get? {entries : Entries α} {name : String} {value : α} (found : get? entries name = some value) :
    (name, value) ∈ entries := by
  induction entries with
  | nil => cases found
  | cons entry rest ih =>
    obtain ⟨key, first⟩ := entry
    by_cases same : key = name
    · rw [get?_cons, if_pos same] at found
      cases Option.some.inj found
      exact same ▸ List.mem_cons_self
    · rw [get?_cons, if_neg same] at found
      exact List.mem_cons_of_mem _ (ih found)

/-- Without repeated names every entry is the one that is found under its name.
The condition cannot be dropped, since only the first of two is. -/
theorem get?_of_mem {entries : Entries α} {name : String} {value : α} (distinct : entries.keys.Nodup)
    (member : (name, value) ∈ entries) : get? entries name = some value := by
  induction entries with
  | nil => cases member
  | cons entry rest ih =>
    obtain ⟨key, first⟩ := entry
    simp only [keys, List.map_cons, List.nodup_cons] at distinct
    rcases List.mem_cons.mp member with same | later
    · cases same
      rw [get?_cons, if_pos rfl]
    · have different : key ≠ name := fun same =>
        distinct.1 (same ▸ List.mem_map_of_mem (f := Prod.fst) later)
      rw [get?_cons, if_neg different]
      exact ih distinct.2 later

theorem mem_keys_iff_get? {entries : Entries α} {name : String} :
    name ∈ entries.keys ↔ ∃ value, get? entries name = some value := by
  constructor
  · intro member
    cases found : get? entries name with
    | none => exact absurd member ((get?_eq_none_iff entries name).mp found)
    | some value => exact ⟨value, rfl⟩
  · intro present
    obtain ⟨value, found⟩ := present
    exact List.mem_map_of_mem (f := Prod.fst) (mem_of_get? found)

theorem contains_iff_mem_keys {entries : Entries α} {name : String} :
    entries.contains name = true ↔ name ∈ entries.keys := by
  rw [contains, Option.isSome_iff_exists, mem_keys_iff_get?]

end Overlay.Entries
