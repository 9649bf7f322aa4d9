import Mathlib
import Overlay.Proofs.DocumentParts
import Overlay.Proofs.PlainTrees

namespace Overlay.Loading

open Conversion Yaml
open Yaml.Tree (MergesIn)

variable {env : Environment} {text : String} {tree : Tree} {result : Arguments}

/-- The arguments have the key by its text. Zeros are the same key whatever
their signs. -/
def HasKey (env : Environment) (arguments : Arguments) (key : Tree) : Prop :=
  ∃ name ∈ arguments.keys, (keyName env key).outcome = .ok name ∨
    ∃ x y, key = .float x ∧ x.isZero = true ∧ y.isZero = true ∧ (keyName env (.float y)).outcome = .ok name

/-- No merge key is left, and no key is missing of all that a mapping merges in,
directly or through others. -/
def FullyMerged (env : Environment) (tree : Tree) (value : Value) : Prop :=
  value.hasName "<<" = false ∧
    ∀ (entries : List (Tree × Tree)) (arguments : Arguments),
      Part env (.mapping entries) (.mapping arguments) tree value →
        ∀ source, Relation.TransGen MergesIn entries source → ∀ entry ∈ source, entry.1.isMergeKey = false →
          HasKey env arguments entry.1

/-- No mapping that has a value merges in one that has a merge key itself. -/
def Unchained (env : Environment) (tree : Tree) (value : Value) : Prop :=
  ∀ (entries : List (Tree × Tree)) (arguments : Arguments),
    Part env (.mapping entries) (.mapping arguments) tree value →
      ∀ source, MergesIn entries source → ∀ entry ∈ source, entry.1.isMergeKey = false

theorem floatText_of_isNaN {x : Double} (notNumber : x.isNaN = true) : floatText x = ".nan".toList := by
  rw [floatText, if_pos notNumber]
  rfl

/-- Keys that are the same have the same text, except for zeros. -/
theorem hasKey_of_same {key other : Tree} {arguments : Arguments} {name : String} (plain : key.isPlain = true)
    (same : key.same other = true) (named : (keyName env other).outcome = .ok name)
    (member : name ∈ arguments.keys) : HasKey env arguments key := by
  refine ⟨name, member, ?_⟩
  cases key with
  | null =>
    cases other with
    | null => exact Or.inl named
    | _ => cases same
  | bool a =>
    cases other with
    | bool b => exact Or.inl (beq_iff_eq.mp same ▸ named)
    | _ => cases same
  | integer a =>
    cases other with
    | integer b => exact Or.inl (beq_iff_eq.mp same ▸ named)
    | _ => cases same
  | string a =>
    cases other with
    | string b => exact Or.inl (beq_iff_eq.mp same ▸ named)
    | _ => cases same
  | float x =>
    cases other with
    | float y =>
      simp only [Tree.same, Tree.sameFloat, Double.equal, Bool.or_eq_true, Bool.and_eq_true, beq_iff_eq] at same
      rcases same with ⟨left, right⟩ | ⟨_, rfl | ⟨left, right⟩⟩
      · rw [keyName, floatText_of_isNaN right] at named
        exact Or.inl (by rwa [keyName, floatText_of_isNaN left])
      · exact Or.inl named
      -- the zeros of both signs are one key with two texts
      · exact Or.inr ⟨x, y, rfl, left, right, named⟩
    | _ => cases same
  | sequence items =>
    cases other with
    | sequence others => cases named
    | _ => cases same
  | mapping entries =>
    cases other with
    | mapping others => cases named
    | _ => cases same
  | tagged tag content => cases plain

theorem isPlain_of_mergesIn {entries source : List (Tree × Tree)} (plain : (Tree.mapping entries).isPlain = true)
    (mergesIn : MergesIn entries source) : (Tree.mapping source).isPlain = true := by
  obtain ⟨key, value, member, _, offers⟩ := mergesIn
  have atValue : value.isPlain = true := (Tree.isPlain_of_mem_entries plain (key, value) member).2
  cases offers with
  | single => exact atValue
  | several inItems => exact Tree.isPlain_of_mem_items atValue _ inItems

theorem isPlain_key_of_mem_merged {entries merged : List (Tree × Tree)} (plain : (Tree.mapping entries).isPlain = true)
    (success : Tree.mergeEntries entries = .ok merged) : ∀ entry ∈ merged, entry.1.isPlain = true := by
  intro entry member
  obtain ⟨rfl, stems⟩ := Tree.mergeEntries_eq_ok success
  rcases List.mem_append.mp member with explicit | inAdded
  · exact (Tree.isPlain_of_mem_entries plain entry (Tree.mem_explicitEntries explicit)).1
  · obtain ⟨_, source, mergesIn, inSource⟩ := stems entry inAdded
    exact (Tree.isPlain_of_mem_entries (isPlain_of_mergesIn plain mergesIn) entry inSource).1

section MergedMapping

variable {entries merged : List (Tree × Tree)} {pairs : List (String × Value)}

/-- A merge key is left exactly if it stands in a mapping that is merged in. -/
theorem mergeKey_mem_keys_iff (apart : Tree.KeysApart entries) (plain : (Tree.mapping entries).isPlain = true)
    (success : Tree.mergeEntries entries = .ok merged) (each : List.Forall₂ (GivesPair env) merged pairs) :
    "<<" ∈ (Entries.ofList pairs).keys ↔
      ∃ source, MergesIn entries source ∧ ∃ entry ∈ source, entry.1.isMergeKey = true := by
  rw [Entries.mem_keys_ofList, ← Entries.keys, mem_keys_iff_named each]
  constructor
  · intro named
    obtain ⟨entry, member, named⟩ := named
    have isKey := isMergeKey_of_keyName (isPlain_key_of_mem_merged plain success entry member) named
    obtain ⟨rfl, stems⟩ := Tree.mergeEntries_eq_ok success
    rcases List.mem_append.mp member with explicit | inAdded
    · rw [apart.explicit_not_mergeKey entry explicit] at isKey
      cases isKey
    · obtain ⟨_, source, mergesIn, inSource⟩ := stems entry inAdded
      exact ⟨source, mergesIn, entry, inSource, isKey⟩
  · intro chained
    obtain ⟨source, mergesIn, entry, inSource, isKey⟩ := chained
    obtain ⟨other, inMerged, same⟩ := Tree.hasKey_iff.mp (apart.hasKey_of_mergesIn success mergesIn inSource)
    rw [Tree.isMergeKey_iff.mp isKey] at same
    refine ⟨other, inMerged, ?_⟩
    cases atOther : other.1 with
    | string text =>
      rw [atOther] at same
      rw [← beq_iff_eq.mp same]
      exact keyName_mergeKey
    | _ =>
      rw [atOther] at same
      cases same

/-- Every key of what is merged in is a key of the result, whether its value is
the merged one or an explicit one took its place. -/
theorem hasKey_of_mergesIn {source : List (Tree × Tree)} (apart : Tree.KeysApart entries)
    (plain : (Tree.mapping entries).isPlain = true) (success : Tree.mergeEntries entries = .ok merged)
    (each : List.Forall₂ (GivesPair env) merged pairs) (mergesIn : MergesIn entries source) :
    ∀ entry ∈ source, HasKey env (Entries.ofList pairs) entry.1 := by
  intro entry inSource
  obtain ⟨other, inMerged, same⟩ := Tree.hasKey_iff.mp (apart.hasKey_of_mergesIn success mergesIn inSource)
  obtain ⟨pair, inPairs, named, _⟩ := exists_right_of_forall₂ each inMerged
  have plainKey := (Tree.isPlain_of_mem_entries (isPlain_of_mergesIn plain mergesIn) entry inSource).1
  exact hasKey_of_same plainKey same named (Entries.mem_keys_ofList.mpr (List.mem_map_of_mem inPairs))

/-- Where no merge key is merged in, nothing is merged in through others. -/
theorem mergesIn_of_transGen {source : List (Tree × Tree)}
    (unchained : ∀ source, MergesIn entries source → ∀ entry ∈ source, entry.1.isMergeKey = false)
    (chain : Relation.TransGen MergesIn entries source) : MergesIn entries source := by
  induction chain with
  | single mergesIn => exact mergesIn
  | tail _ next ih =>
    obtain ⟨key, value, member, isKey, _⟩ := next
    rw [unchained _ ih (key, value) member] at isKey
    cases isKey

end MergedMapping

theorem isPlain_of_part {piece : Tree} {value found : Value} (plain : tree.isPlain = true)
    (part : Part env piece found tree value) : piece.isPlain = true := by
  have ofContent : ∀ {tag : String} {content : Tree}, (Tree.tagged tag content).isPlain = true →
      content.isPlain = true := by
    intro tag content tagged
    cases tagged
  have ofEntry : ∀ {entries : List (Tree × Tree)}, (Tree.mapping entries).isPlain = true →
      ∀ entry ∈ entries, entry.2.isPlain = true :=
    fun plain entry member => (Tree.isPlain_of_mem_entries plain entry member).2
  exact part.inherits (p := fun tree => tree.isPlain = true) Tree.isPlain_of_mem_items ofContent ofEntry plain

/-- In a loaded document a mapping is left with a merge key exactly if one that
it merges in has it. -/
theorem mergeKey_mem_keys_of_part_iff {entries : List (Tree × Tree)} {arguments : Arguments}
    (read : Tree.read text = .ok tree) (plain : tree.isPlain = true)
    (parsed : (parseArguments env text).outcome = .ok result)
    (part : Part env (.mapping entries) (.mapping arguments) tree (.mapping result)) :
    "<<" ∈ arguments.keys ↔ ∃ source, MergesIn entries source ∧ ∃ entry ∈ source, entry.1.isMergeKey = true := by
  obtain ⟨merged, pairs, success, rfl, each⟩ := part.merged_of_parsed read parsed
  exact mergeKey_mem_keys_iff (part.keysApart read) (isPlain_of_part plain part) success each

/-- Merges are carried out to the end exactly in the documents that do not chain
them. -/
theorem fullyMerged_iff_unchained (read : Tree.read text = .ok tree) (plain : tree.isPlain = true)
    (parsed : (parseArguments env text).outcome = .ok result) :
    FullyMerged env tree (.mapping result) ↔ Unchained env tree (.mapping result) := by
  constructor
  -- a merge key that is merged in stays as an entry, and its name is one of the result
  · intro merged entries arguments part source mergesIn entry member
    refine Bool.eq_false_iff.mpr fun isKey => ?_
    have left : "<<" ∈ arguments.keys :=
      (mergeKey_mem_keys_of_part_iff read plain parsed part).mpr ⟨source, mergesIn, entry, member, isKey⟩
    have inside := part.hasName (Value.hasName_mapping_iff.mpr (Or.inl left))
    rw [merged.1] at inside
    cases inside
  · intro unchained
    refine ⟨Bool.eq_false_iff.mpr fun inside => ?_, ?_⟩
    · obtain ⟨again, readAgain, gives⟩ := outcome_ofText_eq_ok_iff.mp parsed
      cases read.symm.trans readAgain
      rcases gives with gives | ⟨_, rfl⟩
      · obtain ⟨entries, arguments, part, left⟩ := exists_part_of_hasName gives inside
        obtain ⟨source, mergesIn, entry, member, isKey⟩ :=
          (mergeKey_mem_keys_of_part_iff read plain parsed part).mp left
        rw [unchained entries arguments part source mergesIn entry member] at isKey
        cases isKey
      · cases inside
    · intro entries arguments part source chain entry member _
      -- where nothing is chained, what is merged in by any number of steps is merged in by one
      have mergesIn := mergesIn_of_transGen (unchained entries arguments part) chain
      obtain ⟨merged, pairs, success, rfl, each⟩ := part.merged_of_parsed read parsed
      exact hasKey_of_mergesIn (part.keysApart read) (isPlain_of_part plain part) success each mergesIn entry
        member

/-- Three mappings, of which the third merges in the second and the second the
first. -/
def chain : String := "a: &a\n  x: 1\nb: &b\n  <<: *a\nc:\n  <<: *b\n"

def chainTree : Tree :=
  .mapping [(.string "a", .mapping [(.string "x", .integer 1)]),
    (.string "b", .mapping [(.string "<<", .mapping [(.string "x", .integer 1)])]),
    (.string "c", .mapping [(.string "<<", .mapping [(.string "<<", .mapping [(.string "x", .integer 1)])])])]

def chainArguments : Arguments :=
  [("a", .mapping [("x", .integer 1)]), ("b", .mapping [("x", .integer 1)]),
    ("c", .mapping [("<<", .mapping [("x", .integer 1)])])]

theorem read_chain : Tree.read chain = .ok chainTree := by cbv

theorem isPlain_chainTree : chainTree.isPlain = true := by cbv

theorem outcome_parseArguments_chain : (parseArguments (fun _ => none) chain).outcome = .ok chainArguments := by cbv

/-- Three mappings, each merging in the one before it, are a chain. -/
theorem not_unchained_chain : ¬ Unchained (fun _ => none) chainTree (.mapping chainArguments) := by
  intro unchained
  have merged := (fullyMerged_iff_unchained read_chain isPlain_chainTree outcome_parseArguments_chain).mpr unchained
  cases merged.1

theorem not_fullyMerged_chain : ∃ tree result, Tree.read chain = .ok tree ∧ tree.isPlain = true ∧
    (parseArguments (fun _ => none) chain).outcome = .ok result ∧
      ¬ FullyMerged (fun _ => none) tree (.mapping result) := by
  refine ⟨chainTree, chainArguments, read_chain, isPlain_chainTree, outcome_parseArguments_chain, fun merged => ?_⟩
  cases merged.1

end Overlay.Loading
