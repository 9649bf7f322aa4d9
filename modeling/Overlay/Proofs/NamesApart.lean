import Overlay.Proofs.ConvertedEntries

namespace Overlay

open Yaml (Tree)

/-- A part of a tree. Keys do not count. -/
inductive Yaml.Tree.PartOf (piece : Tree) : Tree → Prop
  | whole : PartOf piece piece
  | item {items : List Tree} {item : Tree} : item ∈ items → PartOf piece item → PartOf piece (.sequence items)
  | value {entries : List (Tree × Tree)} {key item : Tree} : (key, item) ∈ entries → PartOf piece item →
      PartOf piece (.mapping entries)
  | content {tag : String} {content : Tree} : PartOf piece content → PartOf piece (.tagged tag content)

namespace Conversion

variable {env : Environment}

/-- No two of the entries have keys that get the same name. -/
def NamesApart (env : Environment) (entries : List (Tree × Tree)) : Prop :=
  entries.Pairwise fun earlier later =>
    ∀ name, (keyName env earlier.1).outcome = .ok name → (keyName env later.1).outcome ≠ .ok name

/-- A part of a tree that has its place in the value of the whole, and the value
it has there. -/
inductive Place (env : Environment) (piece : Tree) (result : Value) : Tree → Value → Prop
  | whole : Place env piece result piece result
  | item {items : List Tree} {values : List Value} {i : Nat} {item : Tree} {found : Value} :
      items[i]? = some item → values[i]? = some found → Place env piece result item found →
      Place env piece result (.sequence items) (.sequence values)
  | entry {entries : List (Tree × Tree)} {key item : Tree} {name : String} {arguments : Arguments} {found : Value} :
      (key, item) ∈ entries → Converts env (key, item) (name, found) → arguments.get? name = some found →
      Place env piece result item found → Place env piece result (.mapping entries) (.mapping arguments)
  | content {tag : String} {content : Tree} {found : Value} : Place env piece result content found →
      Place env piece result (.tagged tag content) found

/-- Every mapping of the tree has as many entries in the value. -/
def KeepsEntries (env : Environment) (tree : Tree) (result : Value) : Prop :=
  ∀ (entries : List (Tree × Tree)) (arguments : Arguments),
    Place env (.mapping entries) (.mapping arguments) tree result → arguments.length = entries.length

/-- Where the names of the keys are known, that they are apart means that no
name repeats. -/
theorem Named.namesApart_iff {entries : List (Tree × Tree)} {names : List String} (named : Named env entries names) :
    NamesApart env entries ↔ names.Nodup := by
  induction named with
  | nil => exact iff_of_true .nil .nil
  | @cons entry name entries names here later ih =>
    rw [NamesApart, List.pairwise_cons, ← NamesApart, ih, List.nodup_cons]
    refine and_congr_left fun _ => ?_
    constructor
    · intro apart member
      obtain ⟨other, inEntries, again⟩ := (Named.mem_iff later).mp member
      exact apart other inEntries name here again
    · intro absent other inEntries found atEntry again
      cases here.symm.trans atEntry
      exact absent ((Named.mem_iff later).mpr ⟨other, inEntries, again⟩)

theorem NamesApart.perm {entries others : List (Tree × Tree)} (apart : NamesApart env entries)
    (order : entries.Perm others) : NamesApart env others := by
  refine (order.pairwise_iff fun different name atFirst again => ?_).mp apart
  exact different name again atFirst

/-- A mapping keeps all its entries exactly if their keys get different names;
it loses no name in any case. -/
theorem entries_of_value_mapping {entries : List (Tree × Tree)} {arguments : Arguments}
    (converts : (value env (.mapping entries)).outcome = .ok (.mapping arguments)) :
    (∀ name, name ∈ arguments.keys ↔ ∃ entry ∈ entries, (keyName env entry.1).outcome = .ok name) ∧
    (arguments.length = entries.length ↔ NamesApart env entries) := by
  obtain ⟨pairs, same, each⟩ := value_mapping_eq_ok_iff.mp converts
  cases same
  have named := named_of_converts each
  constructor
  · intro name
    rw [Entries.mem_keys_ofList, ← Entries.keys, named.mem_iff]
  · rw [each.length_eq, Entries.length_ofList_iff, named.namesApart_iff]

/-- Where a mapping keeps all its entries, each of them has its value there. -/
theorem exists_entry_of_namesApart {entries : List (Tree × Tree)} {arguments : Arguments}
    (converts : (value env (.mapping entries)).outcome = .ok (.mapping arguments)) (apart : NamesApart env entries)
    {entry : Tree × Tree} (member : entry ∈ entries) :
    ∃ name found, Converts env entry (name, found) ∧ arguments.get? name = some found := by
  obtain ⟨pairs, same, each⟩ := value_mapping_eq_ok_iff.mp converts
  cases same
  have distinct := (named_of_converts each).namesApart_iff.mp apart
  obtain ⟨⟨name, found⟩, inPairs, converts⟩ := exists_right_of_forall₂ each member
  refine ⟨name, found, converts, ?_⟩
  rw [Entries.ofList_of_nodup distinct]
  exact Entries.get?_of_mem distinct inPairs

theorem Place.partOf {piece tree : Tree} {result whole : Value} (place : Place env piece result tree whole) :
    piece.PartOf tree := by
  induction place with
  | whole => exact .whole
  | item atItem _ _ ih => exact .item (List.mem_of_getElem? atItem) ih
  | entry member _ _ _ ih => exact .value member ih
  | content _ ih => exact .content ih

/-- A piece of a tree that converts is converted by itself to what stands at its
place in the result. -/
theorem Place.converts {piece tree : Tree} {result whole : Value} (place : Place env piece result tree whole)
    (converts : (value env tree).outcome = .ok whole) : (value env piece).outcome = .ok result := by
  induction place with
  | whole => exact converts
  | item atItem atValue _ ih =>
    obtain ⟨values, same, each⟩ := value_sequence_eq_ok_iff.mp converts
    cases same
    exact ih (related_of_getElem? each atItem atValue)
  | entry _ here _ _ ih => exact ih here.2
  | content _ ih => exact ih (by rwa [value] at converts)

/-- Where all entries are kept, every part has its place. -/
theorem KeepsEntries.exists_place {piece tree : Tree} {whole : Value} (keeps : KeepsEntries env tree whole)
    (converts : (value env tree).outcome = .ok whole) (part : piece.PartOf tree) :
    ∃ result, Place env piece result tree whole := by
  -- a tree can be a part in several places; the way down to this one leads to a value because no entry is lost on it
  induction part generalizing whole with
  | whole => exact ⟨whole, .whole⟩
  | item member _ ih =>
    obtain ⟨values, rfl, each⟩ := value_sequence_eq_ok_iff.mp converts
    obtain ⟨i, found, atValue, atItem⟩ := exists_index_of_forall₂ each.flip member
    have inner := related_of_getElem? each atItem atValue
    obtain ⟨result, place⟩ := ih (fun entries arguments below => keeps _ _ (.item atItem atValue below)) inner
    exact ⟨result, .item atItem atValue place⟩
  | value member _ ih =>
    obtain ⟨pairs, rfl, _⟩ := value_mapping_eq_ok_iff.mp converts
    have apart := (entries_of_value_mapping converts).2.mp (keeps _ _ .whole)
    obtain ⟨name, found, here, atName⟩ := exists_entry_of_namesApart converts apart member
    obtain ⟨result, place⟩ := ih (fun entries arguments below => keeps _ _ (.entry member here atName below)) here.2
    exact ⟨result, .entry member here atName place⟩
  | content _ ih =>
    rw [value] at converts
    obtain ⟨result, place⟩ := ih (fun entries arguments below => keeps _ _ (.content below)) converts
    exact ⟨result, .content place⟩

/-- A conversion that succeeds keeps every name. It keeps every entry exactly if
no mapping of the tree has two keys that get the same name. -/
theorem keepsEntries_iff_namesApart {tree : Tree} {result : Value} (converts : (value env tree).outcome = .ok result) :
    (∀ (entries : List (Tree × Tree)) (arguments : Arguments),
      Place env (.mapping entries) (.mapping arguments) tree result →
      (∀ name, name ∈ arguments.keys ↔ ∃ entry ∈ entries, (keyName env entry.1).outcome = .ok name) ∧
      (arguments.length = entries.length ↔ NamesApart env entries)) ∧
    (KeepsEntries env tree result ↔ ∀ entries, (Tree.mapping entries).PartOf tree → NamesApart env entries) := by
  refine ⟨fun entries arguments place => entries_of_value_mapping (place.converts converts), ?_, ?_⟩
  · intro keeps entries part
    obtain ⟨found, place⟩ := keeps.exists_place converts part
    have inner := place.converts converts
    obtain ⟨pairs, rfl, _⟩ := value_mapping_eq_ok_iff.mp inner
    exact (entries_of_value_mapping inner).2.mp (keeps _ _ place)
  · intro apart entries arguments place
    exact (entries_of_value_mapping (place.converts converts)).2.mpr (apart entries place.partOf)

/-- A number and a string as keys that get the same name. -/
def collision : List (Tree × Tree) := [(.integer 1, .string "a"), (.string "1", .string "b")]

/-- A number and the string of its digits are one name, and the later of the two
entries counts. -/
theorem outcome_value_collision :
    (value (fun _ => none) (.mapping collision)).outcome = .ok (.mapping [("1", .string "b")]) := by cbv

theorem not_namesApart_collision : ¬ NamesApart (fun _ => none) collision := by
  intro apart
  have length := ((keepsEntries_iff_namesApart outcome_value_collision).1 _ _ .whole).2.mpr apart
  cases length

theorem not_keepsEntries_collision : ¬ ∀ (env : Environment) (tree : Tree) (result : Value),
    (value env tree).outcome = .ok result → KeepsEntries env tree result := by
  intro keeps
  have length := keeps _ _ _ outcome_value_collision collision _ .whole
  cases length

end Conversion

end Overlay
