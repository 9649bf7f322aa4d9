import Overlay.Proofs.AssignmentLists
import Overlay.Proofs.EntriesOfList
import Overlay.Proofs.TextParts

namespace Overlay

/-- The last of the items with a property. -/
def LastOf {β : Type} (p : β → Prop) (items : List β) (item : β) : Prop :=
  ∃ front back, items = front ++ item :: back ∧ p item ∧ ∀ later ∈ back, ¬ p later

/-- Two properties with the same members have the same last one, which carries a
statement about what is written over to what is parsed. -/
theorem lastOf_congr {β : Type} {p q : β → Prop} (same : ∀ item, p item ↔ q item) {items : List β} {item : β} :
    LastOf p items item ↔ LastOf q items item := by
  rw [funext fun item => propext (same item)]

theorem LastOf.holds {β : Type} {p : β → Prop} {items : List β} {item : β} (last : LastOf p items item) : p item := by
  obtain ⟨_, _, _, holds, _⟩ := last
  exact holds

/-- Where something has the property there is a last one, so that no look-up
among assignments is left undecided. -/
theorem exists_lastOf {β : Type} {p : β → Prop} {items : List β} (inItems : ∃ item ∈ items, p item) :
    ∃ item, LastOf p items item := by
  induction items with
  | nil =>
    obtain ⟨_, member, _⟩ := inItems
    cases member
  | cons first rest ih =>
    by_cases later : ∃ item ∈ rest, p item
    · obtain ⟨item, front, back, rfl, holds, noLater⟩ := ih later
      exact ⟨item, first :: front, back, rfl, holds, noLater⟩
    · obtain ⟨item, member, holds⟩ := inItems
      rcases List.mem_cons.mp member with rfl | inRest
      · exact ⟨item, [], rest, rfl, holds, fun other inRest again => later ⟨other, inRest, again⟩⟩
      · exact absurd ⟨item, inRest, holds⟩ later

namespace Assignment

/-- A text `KEY=VALUE`: the value is all that stands behind the first equals
sign, and the key what stands before it, without the white space at its ends. -/
structure Writes (text key value : String) : Prop where
  nonempty : key ≠ ""
  split : ∃ before, text.toList = before ++ '=' :: value.toList ∧ '=' ∉ before ∧ Text.Trims before key.toList

/-- A text that writes some value for the key. -/
def Names (key text : String) : Prop := ∃ value, Writes text key value

/-- A text without equals sign, or with nothing but white space before the first
one. -/
inductive Malformed (text : String) : Prop
  | unassigned : '=' ∉ text.toList → Malformed text
  | nameless {before after : List Char} : text.toList = before ++ '=' :: after → '=' ∉ before →
      (∀ c ∈ before, isBlank c = true) → Malformed text

/-- The text is malformed and everything in front of it is not: it is the one an
error names. -/
def FirstMalformed (texts : List String) (text : String) : Prop :=
  Malformed text ∧ ∃ front back, texts = front ++ text :: back ∧ ∀ earlier ∈ front, ¬ Malformed earlier

variable {text key value : String} {texts : List String}

/-- The parser reads exactly the assignments that a text writes: the key is
trimmed, the value is everything behind the first equals sign. -/
theorem parse?_eq_some_iff : parse? text = some ⟨key, value⟩ ↔ Writes text key value := by
  constructor
  · intro parsed
    unfold parse? at parsed
    split at parsed
    · cases parsed
    · rename_i before after split
      obtain ⟨whole, absent⟩ := Text.eq_of_splitAtFirst split
      dsimp only at parsed
      split at parsed
      · cases parsed
      · rename_i nonempty
        cases parsed
        refine ⟨fun empty => nonempty (String.ofList_eq_empty_iff.mp empty), before, ?_, absent, ?_⟩
        · rw [whole, String.toList_ofList]
        · rw [String.toList_ofList]
          exact Text.trims_trim before
  · rintro ⟨nonempty, before, whole, absent, trims⟩
    have keyed : ¬ key.toList = [] := fun empty => nonempty (String.toList_eq_nil_iff.mp empty)
    simp only [parse?, whole, Text.splitAtFirst_append absent, trims.trim_eq, if_neg keyed, String.ofList_toList]

/-- The parser refuses exactly the malformed texts, those without an equals sign
and those with nothing but blanks in front of it. -/
theorem parse?_eq_none_iff : parse? text = none ↔ Malformed text := by
  constructor
  · intro failed
    unfold parse? at failed
    split at failed
    · exact .unassigned (Text.splitAtFirst_eq_none_iff.mp (by assumption))
    · rename_i before after split
      obtain ⟨whole, absent⟩ := Text.eq_of_splitAtFirst split
      refine .nameless whole absent (Text.trim_eq_nil_iff.mp ?_)
      by_contra nonempty
      rw [if_neg nonempty] at failed
      cases failed
  · intro malformed
    cases malformed with
    | unassigned absent => rw [parse?, Text.splitAtFirst_eq_none_iff.mpr absent]
    | nameless whole absent blank =>
      simp only [parse?, whole, Text.splitAtFirst_append absent, Text.trim_eq_nil_iff.mpr blank, if_pos]

theorem names_iff : Names key text ↔ ∃ value, parse? text = some ⟨key, value⟩ :=
  exists_congr fun _ => parse?_eq_some_iff.symm

/-- An assignment to another key does not name this one, so it can be passed
over on the way to the last. -/
theorem not_names_of_parse? {assignment : Assignment} (parsed : parse? text = some assignment)
    (different : assignment.key ≠ key) : ¬ Names key text := by
  rintro ⟨value, writes⟩
  cases parsed.symm.trans (parse?_eq_some_iff.mpr writes)
  exact different rfl

/-- The search stops at the first malformed text, which is the one an error is
about. -/
theorem firstMalformed?_eq_some_iff : firstMalformed? texts = some text ↔ FirstMalformed texts text := by
  rw [firstMalformed?, List.find?_eq_some_iff_append, FirstMalformed]
  simp only [Bool.not_eq_true', Option.isNone_eq_false_iff, Option.isSome_iff_ne_none, ne_eq, Option.isNone_iff_eq_none,
    parse?_eq_none_iff]

theorem firstMalformed?_eq_none_iff : firstMalformed? texts = none ↔ ∀ text ∈ texts, ¬ Malformed text := by
  rw [firstMalformed?, List.find?_eq_none]
  simp only [Option.isNone_iff_eq_none, parse?_eq_none_iff]

/-- Each text writes a value for the name at its place. -/
theorem forall₂_names (wellFormed : ∀ text ∈ texts, ¬ Malformed text) :
    List.Forall₂ (fun text name => Names name text) texts ((texts.filterMap parse?).map Assignment.key) := by
  induction texts with
  | nil => exact .nil
  | cons text rest ih =>
    obtain ⟨here, later⟩ := List.forall_mem_cons.mp wellFormed
    cases parsed : parse? text with
    | none => exact absurd (parse?_eq_none_iff.mp parsed) here
    | some assignment =>
      rw [List.filterMap_cons_some parsed, List.map_cons]
      exact .cons ⟨assignment.value, parse?_eq_some_iff.mp parsed⟩ (ih later)

section Pairs

variable {α β : Type} {f : String → α} {read : β → Option Assignment} {items : List β} {item : β}

/-- The keys of assignments with what their values stand for. -/
def pairs (f : String → α) (assignments : List Assignment) : List (String × α) :=
  assignments.map fun assignment => (assignment.key, f assignment.value)

theorem keys_pairs (f : String → α) (assignments : List Assignment) :
    Entries.keys (pairs f assignments) = assignments.map Assignment.key := by simp [Entries.keys, pairs]

theorem mem_keys_pairs : key ∈ Entries.keys (pairs f (items.filterMap read)) ↔
    ∃ item ∈ items, ∃ value, read item = some ⟨key, value⟩ := by
  rw [keys_pairs, List.mem_map]
  constructor
  · rintro ⟨assignment, member, rfl⟩
    obtain ⟨item, inItems, here⟩ := List.mem_filterMap.mp member
    exact ⟨item, inItems, assignment.value, here⟩
  · rintro ⟨item, inItems, value, here⟩
    exact ⟨_, List.mem_filterMap.mpr ⟨item, inItems, here⟩, rfl⟩

theorem get?_reverse_pairs_eq_none (absent : ∀ item ∈ items, ¬ ∃ value, read item = some ⟨key, value⟩) :
    Entries.get? (pairs f (items.filterMap read)).reverse key = none := by
  rw [Entries.get?_eq_none_iff, Entries.keys, List.map_reverse, List.mem_reverse]
  intro member
  obtain ⟨item, inItems, here⟩ := mem_keys_pairs.mp member
  exact absent item inItems here

/-- Of the items that assign to a key the last one counts. -/
theorem get?_reverse_pairs_of_lastOf (last : LastOf (fun item => ∃ value, read item = some ⟨key, value⟩) items item)
    (here : read item = some ⟨key, value⟩) :
    Entries.get? (pairs f (items.filterMap read)).reverse key = some (f value) := by
  obtain ⟨front, back, rfl, _, absent⟩ := last
  have later := get?_reverse_pairs_eq_none (f := f) absent
  rw [List.filterMap_append, List.filterMap_cons_some here]
  simp only [pairs, List.map_append, List.map_cons, List.reverse_append, List.reverse_cons, List.append_assoc,
    Entries.get?_append] at later ⊢
  simp [later, Entries.get?_cons]

end Pairs

end Assignment

end Overlay
