import Overlay.Proofs.InnerNames
import Overlay.Proofs.LastNamed
import Overlay.Proofs.WellFormedTrees

namespace Overlay.Loading

open Yaml (Tree)

variable {env : Environment}

/-- A part of a document, as it was before its merge keys were carried out, and
the value it comes to inside the value of the whole. Of entries whose keys get
the same name only the last one has a value there. -/
inductive Part (env : Environment) (piece : Tree) (result : Value) : Tree → Value → Prop
  | whole : Part env piece result piece result
  | item {items : List Tree} {values : List Value} {i : Nat} {item : Tree} {value : Value} :
      items[i]? = some item → values[i]? = some value → Part env piece result item value →
      Part env piece result (.sequence items) (.sequence values)
  | content {tag : String} {content : Tree} {value : Value} :
      Part env piece result content value → Part env piece result (.tagged tag content) value
  | entry {entries merged : List (Tree × Tree)} {name : String} {item : Tree} {arguments : Arguments} {value : Value} :
      Tree.mergeEntries entries = .ok merged → LastNamed env merged name item → arguments.get? name = some value →
      Part env piece result item value → Part env piece result (.mapping entries) (.mapping arguments)

/-- The value of a part is what the part gives by itself. -/
theorem Part.gives {piece tree : Tree} {result value : Value} (part : Part env piece result tree value)
    (gives : Gives env tree value) : Gives env piece result := by
  induction part with
  | whole => exact gives
  | item atItem atValue _ ih =>
    obtain ⟨results, same, each⟩ := gives_sequence_iff.mp gives
    cases same
    exact ih (related_of_getElem? each atItem atValue)
  | content _ ih => exact ih (gives_tagged_iff.mp gives)
  | entry success last atName _ ih =>
    obtain ⟨merged, pairs, again, same, each⟩ := gives_mapping_iff.mp gives
    cases success.symm.trans again
    cases same
    exact ih (last.gives each atName)

/-- Part by part a document loses nothing that its items, tagged contents and
entries have. -/
theorem Part.inherits {p : Tree → Prop} (ofItem : ∀ {items}, p (.sequence items) → ∀ item ∈ items, p item)
    (ofContent : ∀ {tag content}, p (.tagged tag content) → p content)
    (ofEntry : ∀ {entries}, p (.mapping entries) → ∀ entry ∈ entries, p entry.2)
    {piece tree : Tree} {result value : Value} (part : Part env piece result tree value) (holds : p tree) :
    p piece := by
  induction part with
  | whole => exact holds
  | item atItem _ _ ih => exact ih (ofItem holds _ (List.mem_of_getElem? atItem))
  | content _ ih => exact ih (ofContent holds)
  | entry success last _ _ ih =>
    obtain ⟨key, member⟩ := last.mem
    exact ih (Tree.of_mem_mergeEntries ofItem ofEntry success member holds)

theorem Part.hasName {piece tree : Tree} {result value : Value} (part : Part env piece result tree value)
    {name : String} (inside : result.hasName name = true) : value.hasName name = true := by
  induction part with
  | whole => exact inside
  | item _ atValue _ ih => exact Value.hasName_sequence_iff.mpr ⟨_, List.mem_of_getElem? atValue, ih⟩
  | content _ ih => exact ih
  | entry _ _ atName _ ih => exact Value.hasName_mapping_iff.mpr (Or.inr ⟨_, Entries.mem_of_get? atName, ih⟩)

/-- A name inside the value of a document is one of the names of some part that
is a mapping. -/
theorem exists_part_of_hasName {tree : Tree} {value : Value} (gives : Gives env tree value) {name : String}
    (inside : value.hasName name = true) :
    ∃ (entries : List (Tree × Tree)) (arguments : Arguments),
      Part env (.mapping entries) (.mapping arguments) tree value ∧ name ∈ arguments.keys := by
  -- by height, since a merged mapping has values that are no parts of its own entries
  induction height : tree.height using Nat.strong_induction_on generalizing tree value with
  | _ n ih =>
    subst height
    cases tree with
    | mapping entries =>
      obtain ⟨merged, pairs, success, rfl, each⟩ := gives_mapping_iff.mp gives
      rcases Value.hasName_mapping_iff.mp inside with here | ⟨⟨key, inner⟩, member, inside⟩
      · exact ⟨entries, _, .whole, here⟩
      · have atKey := Entries.get?_of_mem (Entries.nodup_keys_ofList pairs) member
        obtain ⟨item, last, innerGives⟩ := (get?_ofList_iff_lastNamed each).mp atKey
        obtain ⟨itemKey, inMerged⟩ := last.mem
        have lower : item.height < (Tree.mapping entries).height := by
          have below : item.height ≤ Tree.heightOfValues entries := Tree.height_of_mem_mergeEntries success inMerged
          rw [Yaml.Tree.height]
          omega
        obtain ⟨found, arguments, part, named⟩ := ih _ lower innerGives inside rfl
        exact ⟨found, arguments, .entry success last atKey part, named⟩
    | sequence items =>
      obtain ⟨results, rfl, each⟩ := gives_sequence_iff.mp gives
      obtain ⟨inner, member, inside⟩ := Value.hasName_sequence_iff.mp inside
      obtain ⟨i, item, atItem, atValue⟩ := exists_index_of_forall₂ each member
      have lower : item.height < (Tree.sequence items).height := by
        have below := Tree.height_le_heightOfItems (List.mem_of_getElem? atItem)
        rw [Yaml.Tree.height]
        omega
      obtain ⟨found, arguments, part, named⟩ := ih _ lower (related_of_getElem? each atItem atValue) inside rfl
      exact ⟨found, arguments, .item atItem atValue part, named⟩
    | tagged tag content =>
      have lower : content.height < (Tree.tagged tag content).height := by
        rw [Yaml.Tree.height]
        omega
      obtain ⟨found, arguments, part, named⟩ := ih _ lower (gives_tagged_iff.mp gives) inside rfl
      exact ⟨found, arguments, .content part, named⟩
    | null =>
      cases gives_null_iff.mp gives
      cases inside
    | bool b =>
      cases gives_bool_iff.mp gives
      cases inside
    | integer n =>
      cases (gives_integer_iff.mp gives).2
      cases inside
    | float x =>
      cases gives_float_iff.mp gives
      cases inside
    | string text =>
      obtain ⟨expanded, _, rfl⟩ := gives_string_iff.mp gives
      cases inside

/-- A document whose value is null has no mappings with values. -/
theorem Part.gives_null {piece tree : Tree} {value found : Value} (part : Part env piece found tree value)
    (gives : Gives env tree .null) : Gives env piece .null := by
  induction part with
  | whole => exact gives
  | item =>
    obtain ⟨_, impossible, _⟩ := gives_sequence_iff.mp gives
    cases impossible
  | content _ ih => exact ih (gives_tagged_iff.mp gives)
  | entry =>
    obtain ⟨_, _, _, impossible, _⟩ := gives_mapping_iff.mp gives
    cases impossible

/-- What the mappings of a document come to that has been loaded. -/
theorem Part.merged_of_parsed {text : String} {tree : Tree} {result arguments : Arguments}
    {entries : List (Tree × Tree)}
    (read : Tree.read text = .ok tree) (parsed : (parseArguments env text).outcome = .ok result)
    (part : Part env (.mapping entries) (.mapping arguments) tree (.mapping result)) :
    ∃ merged pairs, Tree.mergeEntries entries = .ok merged ∧ arguments = Entries.ofList pairs ∧
      List.Forall₂ (GivesPair env) merged pairs := by
  obtain ⟨again, readAgain, gives⟩ := outcome_ofText_eq_ok_iff.mp parsed
  cases read.symm.trans readAgain
  rcases gives with gives | ⟨null, _⟩
  · obtain ⟨merged, pairs, success, same, each⟩ := gives_mapping_iff.mp (part.gives gives)
    exact ⟨merged, pairs, success, Value.mapping.inj same, each⟩
  · obtain ⟨_, _, _, impossible, _⟩ := gives_mapping_iff.mp (part.gives_null null)
    cases impossible

/-- No mapping of a document has the same key twice. -/
theorem Part.keysApart {entries : List (Tree × Tree)} {text : String} {tree : Tree} {value found : Value}
    (part : Part env (.mapping entries) found tree value) (read : Tree.read text = .ok tree) : Tree.KeysApart entries :=
  (part.inherits Tree.WellFormed.items Tree.WellFormed.content Tree.WellFormed.values
    (Tree.wellFormed_of_read read)).keysApart

end Overlay.Loading
