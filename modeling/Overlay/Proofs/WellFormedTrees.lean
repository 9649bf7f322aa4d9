import Overlay.Proofs.MergeKeys
import Overlay.Yaml.Composition

namespace Overlay.Yaml

/-- A computation gives nothing but what has a property. -/
def Composer.Ensures {α : Type} (p : α → Prop) (computation : Composer α) : Prop :=
  ∀ count result after, computation count = .ok (result, after) → p result

namespace Composer

variable {α β : Type} {p : α → Prop} {q : β → Prop}

theorem ensures_pure {value : α} (holds : p value) : Ensures p (pure value) := by
  intro count result after success
  cases success
  exact holds

theorem ensures_throw {fault : Fault} : Ensures p (throw fault) := by
  intro count result after success
  cases success

/-- The rule for computations in sequence: what holds of every value that the
first can come to may be used for the second. -/
theorem Ensures.bind {first : Composer α} {next : α → Composer β} (ensures : Ensures p first)
    (later : ∀ value, p value → Ensures q (next value)) : Ensures q (first >>= next) := by
  intro count result after success
  obtain ⟨⟨value, between⟩, here, rest⟩ := exceptBind_eq_ok_iff.mp success
  exact later value (ensures count value between here) between result after rest

/-- What holds of every result of a function holds of all members of a list that
it is run along. -/
theorem ensures_mapM {f : α → Composer β} (each : ∀ item, Ensures q (f item)) (items : List α) :
    Ensures (fun results => ∀ result ∈ results, q result) (items.mapM f) := by
  induction items with
  | nil =>
    rw [List.mapM_nil]
    exact ensures_pure (by simp)
  | cons item rest ih =>
    rw [List.mapM_cons]
    refine (each item).bind fun first holds => ih.bind fun others hold => ensures_pure ?_
    intro result member
    rcases List.mem_cons.mp member with rfl | later
    · exact holds
    · exact hold result later

end Composer

namespace Tree

/-- What every document is: integers have at most 64 bits, and no mapping has
the same key twice. -/
inductive WellFormed : Tree → Prop
  | null : WellFormed .null
  | bool {b : Bool} : WellFormed (.bool b)
  | integer {n : Int} : -0x8000000000000000 ≤ n → n < 0x10000000000000000 → WellFormed (.integer n)
  | float {x : Double} : WellFormed (.float x)
  | string {text : String} : WellFormed (.string text)
  | sequence {items : List Tree} : (∀ item ∈ items, WellFormed item) → WellFormed (.sequence items)
  | mapping {entries : List (Tree × Tree)} : KeysApart entries → (∀ entry ∈ entries, WellFormed entry.1) →
      (∀ entry ∈ entries, WellFormed entry.2) → WellFormed (.mapping entries)
  | tagged {tag : String} {content : Tree} : WellFormed content → WellFormed (.tagged tag content)

theorem WellFormed.items {items : List Tree} (wellFormed : (Tree.sequence items).WellFormed) :
    ∀ item ∈ items, item.WellFormed := by
  cases wellFormed with
  | sequence each => exact each

theorem WellFormed.content {tag : String} {content : Tree} (wellFormed : (Tree.tagged tag content).WellFormed) :
    content.WellFormed := by
  cases wellFormed with
  | tagged inner => exact inner

/-- A mapping that is well formed has no key twice. This is what makes its merge
key unique, if it has one. -/
theorem WellFormed.keysApart {entries : List (Tree × Tree)} (wellFormed : (Tree.mapping entries).WellFormed) :
    KeysApart entries := by
  cases wellFormed with
  | mapping apart _ _ => exact apart

theorem WellFormed.keys {entries : List (Tree × Tree)} (wellFormed : (Tree.mapping entries).WellFormed) :
    ∀ entry ∈ entries, entry.1.WellFormed := by
  cases wellFormed with
  | mapping _ keys _ => exact keys

theorem WellFormed.values {entries : List (Tree × Tree)} (wellFormed : (Tree.mapping entries).WellFormed) :
    ∀ entry ∈ entries, entry.2.WellFormed := by
  cases wellFormed with
  | mapping _ _ values => exact values

/-- The reader refuses an integer that needs 128 bits, so that those that are
left fit into 64, with or without sign. -/
theorem wellFormed_ofInteger {n : Int} {tree : Tree} (success : ofInteger n = .ok tree) : tree.WellFormed := by
  unfold ofInteger at success
  split at success
  · rename_i bounds
    cases success
    exact .integer bounds.1 bounds.2
  · cases success

theorem wellFormed_ofText {plain : Bool} {text : String} {tree : Tree} (success : ofText plain text = .ok tree) :
    tree.WellFormed := by
  unfold ofText at success
  split at success
  · split at success
    · cases success
      exact .null
    · cases success
      exact .bool
    · exact wellFormed_ofInteger success
    · cases success
      exact .float
    · cases success
      exact .string
  · cases success
    exact .string

/-- A scalar is a leaf, whatever its tag makes of it, or such a leaf under a
tag. -/
theorem wellFormed_ofScalar {tag : Option Octets} {plain : Bool} {text : String} {tree : Tree}
    (success : ofScalar tag plain text = .ok tree) : tree.WellFormed := by
  unfold ofScalar at success
  split at success
  · exact wellFormed_ofText success
  · exact wellFormed_ofText success
  · obtain ⟨content, read, rfl⟩ := exceptMap_eq_ok_iff.mp success
    exact .tagged (wellFormed_ofText read)
  · split at success <;> cases success
    exact .bool
  · split at success
    · exact wellFormed_ofInteger success
    · cases success
  · split at success <;> cases success
    exact .float
  · split at success <;> cases success
    exact .null
  · cases success
    exact .string

theorem WellFormed.withTag {tree : Tree} (wellFormed : tree.WellFormed) (tag : Option Octets) :
    (Tree.withTag tag tree).WellFormed := by
  unfold Tree.withTag
  split
  · exact .tagged wellFormed
  · exact wellFormed

end Tree

open Composer
open Overlay.Yaml.Tree

/-- A repeated key is refused, so the keys that are composed differ from each
other. -/
theorem ensures_composeEntries {compose : Node → Composer Tree} (each : ∀ node, Ensures Tree.WellFormed (compose node))
    (entries : List (Node × Node)) {earlier : List (Tree × Tree)} (wellFormed : (Tree.mapping earlier).WellFormed) :
    Ensures (fun composed => (Tree.mapping composed).WellFormed) (composeEntries compose earlier entries) := by
  induction entries generalizing earlier with
  | nil => exact ensures_pure wellFormed
  | cons entry rest ih =>
    obtain ⟨key, value⟩ := entry
    rw [composeEntries]
    refine (each key).bind fun key keyWellFormed => ?_
    cases present : hasKey earlier key with
    | true => exact ensures_throw
    | false =>
      refine (each value).bind fun value valueWellFormed => ih ?_
      refine .mapping ?_ ?_ ?_
      · refine List.pairwise_append.mpr ⟨wellFormed.keysApart, List.pairwise_singleton _ _, ?_⟩
        intro entry member other added
        rw [List.mem_singleton] at added
        subst added
        refine Bool.eq_false_iff.mpr fun same => ?_
        rw [hasKey_iff.mpr ⟨entry, member, same⟩] at present
        cases present
      · exact List.forall_mem_append.mpr ⟨wellFormed.keys, List.forall_mem_singleton.mpr keyWellFormed⟩
      · exact List.forall_mem_append.mpr ⟨wellFormed.values, List.forall_mem_singleton.mpr valueWellFormed⟩

/-- The content of a node is composed with what composes its members, if they
may be nested any deeper. -/
theorem ensures_composeContent {inner : Option (Node → Composer Tree)}
    (each : ∀ compose ∈ inner, ∀ node, Ensures Tree.WellFormed (compose node)) (node : Node) :
    Ensures Tree.WellFormed (composeContent inner node) := by
  cases node with
  | «alias» anchor => exact ensures_throw
  | scalar properties plain text =>
    rw [composeContent]
    cases read : Tree.ofScalar properties.tag plain text with
    | error fault => exact ensures_throw
    | ok tree => exact ensures_pure (wellFormed_ofScalar read)
  | sequence properties items =>
    cases inner with
    | none => exact ensures_throw
    | some compose =>
      refine (ensures_mapM (each compose rfl) items).bind fun items wellFormed => ensures_pure ?_
      exact (WellFormed.sequence wellFormed).withTag properties.tag
  | mapping properties entries =>
    cases inner with
    | none => exact ensures_throw
    | some compose =>
      have empty : (Tree.mapping []).WellFormed := .mapping .nil (by simp) (by simp)
      refine (ensures_composeEntries (each compose rfl) entries empty).bind fun entries wellFormed => ensures_pure ?_
      exact wellFormed.withTag properties.tag

/-- By induction on the depth that is left. An alias is composed like the node
that it stands for, one level deeper. -/
theorem ensures_composeNode (anchors : Anchors) (depth : Nat) (node : Node) :
    Ensures Tree.WellFormed (composeNode anchors depth node) := by
  have follow : Ensures (fun _ => True) (anchors.follow node) := fun _ _ _ _ => trivial
  induction depth generalizing node with
  | zero =>
    rw [composeNode]
    exact follow.bind fun node _ => ensures_composeContent (by simp) node
  | succ depth ih =>
    rw [composeNode]
    refine follow.bind fun node _ => ensures_composeContent ?_ node
    intro compose same
    cases same
    exact fun node => ih node (fun _ _ _ _ => trivial)

/-- Every tree that is read is well formed: its keys are apart in each mapping
and its integers fit. Statements about documents need no hypotheses of that
kind. -/
theorem Tree.wellFormed_of_read {text : String} {tree : Tree} (read : Tree.read text = .ok tree) : tree.WellFormed := by
  unfold Tree.read at read
  obtain ⟨tokens, _, read⟩ := exceptBind_eq_ok_iff.mp read
  obtain ⟨node?, _, read⟩ := exceptBind_eq_ok_iff.mp read
  cases node? with
  | none =>
    cases read
    exact .null
  | some node =>
    obtain ⟨⟨composed, count⟩, success, same⟩ := exceptBind_eq_ok_iff.mp read
    cases same
    exact ensures_composeNode (.ofNode node) depthLimit node 0 tree count success

end Overlay.Yaml
