import Mathlib.Data.List.Nodup
import Mathlib.Data.List.Perm.Subperm
import Overlay.Proofs.EntriesLookup

namespace Overlay.Entries

variable {α : Type}

/-- With distinct names the order of entries does not matter for what stands
under a name. -/
theorem get?_perm {entries others : Entries α} (order : entries.Perm others) (distinct : entries.keys.Nodup)
    (name : String) : get? entries name = get? others name := by
  have distinctOthers : others.keys.Nodup := (order.map Prod.fst).nodup_iff.mp distinct
  cases found : get? entries name with
  | some value => exact (get?_of_mem distinctOthers (order.mem_iff.mp (mem_of_get? found))).symm
  | none =>
    rw [get?_eq_none_iff] at found
    exact ((get?_eq_none_iff others name).mpr fun member => found ((order.map Prod.fst).mem_iff.mpr member)).symm

theorem get?_reverse {entries : Entries α} (distinct : entries.keys.Nodup) (name : String) :
    get? entries.reverse name = get? entries name :=
  (get?_perm (List.reverse_perm entries).symm distinct name).symm

theorem get?_filter_value {entries : Entries α} (distinct : entries.keys.Nodup) (p : α → Bool) (name : String) :
    get? (entries.filter fun entry => p entry.2) name = (get? entries name).filter p := by
  have kept : (keys (entries.filter fun entry => p entry.2)).Nodup :=
    distinct.sublist (List.filter_sublist.map Prod.fst)
  ext value
  rw [Option.filter_eq_some_iff]
  constructor
  · intro found
    obtain ⟨member, holds⟩ := List.mem_filter.mp (mem_of_get? found)
    exact ⟨get?_of_mem distinct member, holds⟩
  · intro kept
    obtain ⟨found, holds⟩ := kept
    exact get?_of_mem kept (List.mem_filter.mpr ⟨mem_of_get? found, holds⟩)

theorem get?_insert (entries : Entries α) (name other : String) (value : α) :
    (entries.insert name value).get? other = if name = other then some value else entries.get? other := by
  by_cases same : name = other
  · rw [if_pos same, ← same, get?_insert_self]
  · rw [if_neg same, get?_insert_of_ne _ _ same]

/-- Inserting keeps the keys distinct, which is the invariant of every map in
the program. -/
theorem nodup_keys_insert {entries : Entries α} (distinct : entries.keys.Nodup) (name : String) (value : α) :
    (entries.insert name value).keys.Nodup := by
  by_cases member : name ∈ entries.keys
  · rwa [keys_insert_of_mem value member]
  · rw [keys_insert_of_not_mem value member]
    refine List.nodup_append.mpr ⟨distinct, by simp, ?_⟩
    rintro key present _ added rfl
    exact member (List.mem_singleton.mp added ▸ present)

/-- Setting pairs one after the other: the last pair of a name counts, and
before all of them what was there. -/
theorem get?_foldl_insert (pairs : List (String × α)) (entries : Entries α) (name : String) :
    (pairs.foldl (fun entries pair => entries.insert pair.1 pair.2) entries).get? name =
      (get? pairs.reverse name).or (entries.get? name) := by
  induction pairs generalizing entries with
  | nil => rfl
  | cons pair rest ih =>
    obtain ⟨key, value⟩ := pair
    rw [List.foldl_cons, ih, get?_insert, List.reverse_cons, get?_append]
    cases get? rest.reverse name with
    | some found => rfl
    | none =>
      by_cases same : key = name
      · simp [get?_cons, same]
      · simp [get?_cons, same]

theorem nodup_keys_foldl_insert (pairs : List (String × α)) {entries : Entries α} (distinct : entries.keys.Nodup) :
    (pairs.foldl (fun entries pair => entries.insert pair.1 pair.2) entries).keys.Nodup := by
  induction pairs generalizing entries with
  | nil => exact distinct
  | cons pair rest ih => exact ih (nodup_keys_insert distinct pair.1 pair.2)

/-- Of several pairs with one name the last one counts. -/
theorem get?_ofList (pairs : List (String × α)) (name : String) :
    (ofList pairs).get? name = get? pairs.reverse name := by
  rw [ofList, get?_foldl_insert, get?_nil, Option.or_none]

/-- A map that was made of a list has a value under a name exactly if the last
pair of that name has it. -/
theorem get?_ofList_eq_some_iff {pairs : List (String × α)} {name : String} {value : α} :
    (ofList pairs).get? name = some value ↔
      ∃ front back, pairs = front ++ (name, value) :: back ∧ name ∉ keys back := by
  rw [get?_ofList]
  constructor
  · intro found
    induction pairs with
    | nil => cases found
    | cons pair rest ih =>
      rw [List.reverse_cons, get?_append] at found
      cases later : get? rest.reverse name with
      | some last =>
        rw [later, Option.some_or] at found
        cases found
        obtain ⟨front, back, rfl, absent⟩ := ih later
        exact ⟨pair :: front, back, rfl, absent⟩
      | none =>
        rw [later, Option.none_or] at found
        have only := mem_of_get? found
        rw [List.mem_singleton] at only
        subst only
        refine ⟨[], rest, rfl, fun again => ?_⟩
        rw [get?_eq_none_iff, keys, List.map_reverse, List.mem_reverse] at later
        exact later again
  · intro split
    obtain ⟨front, back, rfl, absent⟩ := split
    have unfound : get? back.reverse name = none := by
      rw [get?_eq_none_iff, keys, List.map_reverse, List.mem_reverse]
      exact absent
    simp [get?_append, get?_cons, unfound]

theorem nodup_keys_ofList (pairs : List (String × α)) : (ofList pairs).keys.Nodup :=
  nodup_keys_foldl_insert pairs List.nodup_nil

theorem mem_keys_ofList {pairs : List (String × α)} {name : String} :
    name ∈ (ofList pairs).keys ↔ name ∈ pairs.map Prod.fst := by
  rw [mem_keys_iff_get?, get?_ofList, ← mem_keys_iff_get?, keys, List.map_reverse, List.mem_reverse]

theorem insert_of_not_mem {entries : Entries α} {name : String} (value : α) (absent : name ∉ entries.keys) :
    entries.insert name value = entries ++ [(name, value)] := by
  induction entries with
  | nil => rfl
  | cons entry rest ih =>
    obtain ⟨key, old⟩ := entry
    simp only [keys, List.map_cons, List.mem_cons, not_or] at absent
    rw [insert, if_neg (Ne.symm absent.1), ih absent.2, List.cons_append]

/-- Pairs with distinct names that are set behind others stay as they are. -/
theorem foldl_insert_of_nodup {entries pairs : Entries α} (distinct : (entries ++ pairs).keys.Nodup) :
    pairs.foldl (fun entries pair => entries.insert pair.1 pair.2) entries = entries ++ pairs := by
  induction pairs generalizing entries with
  | nil => exact (List.append_nil entries).symm
  | cons pair rest ih =>
    have reassoc : entries ++ pair :: rest = entries ++ [pair] ++ rest := List.append_cons entries pair rest
    have fresh : pair.1 ∉ entries.keys := by
      rw [keys, List.map_append, List.map_cons] at distinct
      exact fun present => (List.nodup_append.mp distinct).2.2 _ present _ List.mem_cons_self rfl
    rw [reassoc] at distinct
    rw [List.foldl_cons, insert_of_not_mem pair.2 fresh, ih distinct, reassoc]

theorem ofList_of_nodup {pairs : Entries α} (distinct : pairs.keys.Nodup) : ofList pairs = pairs := by
  rw [ofList]
  exact foldl_insert_of_nodup distinct

/-- Setting pairs leaves the names that are there in their places; new names
come behind them, each where it is set first. -/
theorem keys_foldl_insert (entries : Entries α) (pairs : List (String × α)) :
    (pairs.foldl (fun entries pair => entries.insert pair.1 pair.2) entries).keys =
      entries.keys ++ ((keys pairs).filter fun name => name ∉ entries.keys).eraseDups := by
  induction pairs generalizing entries with
  | nil => exact (List.append_nil _).symm
  | cons pair rest ih =>
    have names : keys (pair :: rest) = pair.1 :: keys rest := rfl
    rw [List.foldl_cons, ih, names]
    by_cases member : pair.1 ∈ entries.keys
    · rw [keys_insert_of_mem pair.2 member, List.filter_cons_of_neg (by simpa using member)]
    · rw [keys_insert_of_not_mem pair.2 member, List.filter_cons_of_pos (by simpa using member), List.eraseDups_cons,
        List.filter_filter, List.append_assoc, List.singleton_append]
      refine congrArg (entries.keys ++ pair.1 :: List.eraseDups ·) (List.filter_congr fun name _ => ?_)
      rw [Bool.eq_iff_iff]
      simp [and_comm]

/-- The keys of a map that was made of a list stand in the order of their first
places in it. -/
theorem keys_ofList (pairs : List (String × α)) : (ofList pairs).keys = (keys pairs).eraseDups := by
  rw [ofList, keys_foldl_insert]
  simp [keys]

/-- Where the first pairs have distinct names, these come first and in their
order. -/
theorem exists_keys_ofList_append {front : List (String × α)} (distinct : (keys front).Nodup)
    (back : List (String × α)) : ∃ later, (ofList (front ++ back)).keys = keys front ++ later := by
  rw [ofList, List.foldl_append, ← ofList, ofList_of_nodup distinct]
  exact ⟨_, keys_foldl_insert front back⟩

/-- Distinct names that are all among as many others are these others in some
order. -/
theorem keys_perm_of_subset {entries others : Entries α} (distinct : entries.keys.Nodup)
    (length : entries.length = others.length) (among : ∀ name ∈ entries.keys, name ∈ others.keys) :
    entries.keys.Perm others.keys := by
  have enough : others.keys.length ≤ entries.keys.length := by simp [keys, length]
  exact (distinct.subperm among).perm_of_length_le enough

/-- No pair is lost exactly if all names differ. -/
theorem length_ofList_iff {pairs : List (String × α)} : (ofList pairs).length = pairs.length ↔ (keys pairs).Nodup := by
  constructor
  · intro sameLength
    have order := keys_perm_of_subset (nodup_keys_ofList pairs) sameLength fun name => mem_keys_ofList.mp
    exact order.nodup_iff.mp (nodup_keys_ofList pairs)
  · intro distinct
    rw [ofList_of_nodup distinct]

end Overlay.Entries
