import Mathlib
import Overlay.Proofs.DocumentParts
import Overlay.Proofs.NamesApart

namespace Overlay

open Yaml (Tree)

namespace Yaml.Tree

/-- The entries of a mapping other than its merge key, in the order in which
they are written. -/
def writtenEntries (entries : List (Tree × Tree)) : List (Tree × Tree) :=
  entries.filter fun entry => !entry.1.isMergeKey

def beforeMergeKey (entries : List (Tree × Tree)) : List (Tree × Tree) :=
  entries.takeWhile fun entry => !entry.1.isMergeKey

/-- The entries that are written behind the merge key; without a merge key there
are none. -/
def behindMergeKey (entries : List (Tree × Tree)) : List (Tree × Tree) :=
  (entries.dropWhile fun entry => !entry.1.isMergeKey).tail

theorem isMergeKey_of_mem_before {entries : List (Tree × Tree)} :
    ∀ entry ∈ beforeMergeKey entries, entry.1.isMergeKey = false := by
  intro entry member
  simpa using List.mem_takeWhile_imp (p := fun entry : Tree × Tree => !entry.1.isMergeKey) member

/-- A mapping falls into two parts at its merge key, or has none. -/
theorem eq_before_or_split (entries : List (Tree × Tree)) :
    behindMergeKey entries = [] ∧ entries = beforeMergeKey entries ∨
      ∃ key value, entries = beforeMergeKey entries ++ (key, value) :: behindMergeKey entries ∧
        key.isMergeKey = true := by
  have whole := List.takeWhile_append_dropWhile (p := fun entry : Tree × Tree => !entry.1.isMergeKey) (l := entries)
  have first := List.head?_dropWhile_not (fun entry : Tree × Tree => !entry.1.isMergeKey) entries
  unfold behindMergeKey beforeMergeKey
  cases rest : entries.dropWhile fun entry => !entry.1.isMergeKey with
  | nil =>
    rw [rest, List.append_nil] at whole
    exact Or.inl ⟨rfl, whole.symm⟩
  | cons found after =>
    rw [rest] at whole first
    exact Or.inr ⟨found.1, found.2, whole.symm, by simpa using first⟩

/-- Carrying out the merge key moves the last entry into its place. -/
theorem explicitEntries_eq (entries : List (Tree × Tree)) : explicitEntries entries =
    beforeMergeKey entries ++ ((behindMergeKey entries).getLast?.toList ++ (behindMergeKey entries).dropLast) := by
  have whole := List.takeWhile_append_dropWhile (p := fun entry : Tree × Tree => !entry.1.isMergeKey) (l := entries)
  unfold explicitEntries takeMergeKey behindMergeKey beforeMergeKey
  cases rest : entries.dropWhile fun entry => !entry.1.isMergeKey with
  | nil =>
    rw [rest, List.append_nil] at whole
    simp [whole]
  | cons found after =>
    cases last : after.getLast? with
    | none => simp [List.getLast?_eq_none_iff.mp last]
    | some entry => simp [last]

/-- The entries in the order they were written are those before the merge key
and those behind it. -/
theorem KeysApart.writtenEntries_eq {entries : List (Tree × Tree)} (apart : KeysApart entries) :
    writtenEntries entries = beforeMergeKey entries ++ behindMergeKey entries := by
  have before : writtenEntries (beforeMergeKey entries) = beforeMergeKey entries :=
    List.filter_eq_self.mpr fun entry member => by rw [isMergeKey_of_mem_before entry member, Bool.not_false]
  rcases eq_before_or_split entries with ⟨nothingBehind, whole⟩ | ⟨key, value, split, isKey⟩
  · rw [nothingBehind, List.append_nil, ← before, ← whole]
  · have behind : writtenEntries (behindMergeKey entries) = behindMergeKey entries := by
      rw [split] at apart
      refine List.filter_eq_self.mpr fun entry member => ?_
      rw [apart.mergeKey_unique isKey entry member, Bool.not_false]
    have skipped : writtenEntries ((key, value) :: behindMergeKey entries) = behindMergeKey entries := by
      rw [writtenEntries, List.filter_cons_of_neg (by simp [isKey]), ← writtenEntries, behind]
    calc writtenEntries entries
        = writtenEntries (beforeMergeKey entries ++ (key, value) :: behindMergeKey entries) := by rw [← split]
      _ = writtenEntries (beforeMergeKey entries) ++ writtenEntries ((key, value) :: behindMergeKey entries) :=
        List.filter_append ..
      _ = beforeMergeKey entries ++ behindMergeKey entries := by rw [before, skipped]

end Yaml.Tree

/-- What is moved to the front of others stays in order with them only if there
are none. -/
theorem sublist_moved_iff {α : Type} {front middle later : List α} {last : α}
    (distinct : (front ++ last :: (middle ++ later)).Nodup) :
    (front ++ (middle ++ [last])).Sublist (front ++ last :: (middle ++ later)) ↔ middle = [] := by
  rw [List.append_sublist_append_left]
  constructor
  · intro inOrder
    have absent := (List.nodup_cons.mp (List.nodup_append.mp distinct).2.1).1
    cases middle with
    | nil => rfl
    | cons first rest =>
      have different : first ≠ last := by
        rintro rfl
        exact absent List.mem_cons_self
      have behind := (inOrder.of_cons_of_ne different).subset
      exact absurd (behind (List.mem_append_right (first :: rest) List.mem_cons_self)) absent
  · rintro rfl
    exact (List.nil_sublist later).cons_cons last

namespace Loading

open Conversion

variable {env : Environment} {text : String} {tree : Tree} {result arguments : Arguments}
  {entries : List (Tree × Tree)}

/-- The keys that a mapping is written with have their names in the arguments,
in the order in which they are written. -/
def InDocumentOrder (env : Environment) (entries : List (Tree × Tree)) (arguments : Arguments) : Prop :=
  ∃ names, Named env (Tree.writtenEntries entries) names ∧ names.Sublist arguments.keys

/-- Expansion keeps each explicit entry once, though perhaps not at its place.
-/
theorem perm_explicitEntries (apart : Tree.KeysApart entries) :
    (Tree.writtenEntries entries).Perm (Tree.explicitEntries entries) := by
  rw [apart.writtenEntries_eq, Tree.explicitEntries_eq]
  refine List.Perm.append_left _ ?_
  rcases List.eq_nil_or_concat' (Tree.behindMergeKey entries) with empty | ⟨middle, last, split⟩
  · rw [empty]
    exact .nil
  · rw [split]
    simp

/-- The explicit keys come first, in the order in which the merge leaves them.
-/
theorem exists_keys_eq_explicit (read : Tree.read text = .ok tree)
    (parsed : (parseArguments env text).outcome = .ok result)
    (part : Part env (.mapping entries) (.mapping arguments) tree (.mapping result))
    (apart : NamesApart env (Tree.writtenEntries entries)) :
    ∃ names later, Named env (Tree.explicitEntries entries) names ∧ arguments.keys = names ++ later := by
  obtain ⟨merged, pairs, success, rfl, each⟩ := part.merged_of_parsed read parsed
  obtain ⟨rfl, _⟩ := Tree.mergeEntries_eq_ok success
  obtain ⟨front, back, rfl, inFront, _⟩ := forall₂_append_left each
  have named := named_of_gives inFront
  have distinct := named.namesApart_iff.mp (apart.perm (perm_explicitEntries (part.keysApart read)))
  obtain ⟨later, keys⟩ := Entries.exists_keys_ofList_append distinct back
  exact ⟨Entries.keys front, later, named, keys⟩

/-- The names of the explicit keys come first; the entry that is written last
takes the place of the merge key. So they stand in the order of the document
exactly if at most one entry is written behind the merge key. -/
theorem inDocumentOrder_iff (read : Tree.read text = .ok tree)
    (parsed : (parseArguments env text).outcome = .ok result)
    (part : Part env (.mapping entries) (.mapping arguments) tree (.mapping result))
    (apart : NamesApart env (Tree.writtenEntries entries)) :
    (∃ names later, arguments.keys = names ++ later ∧
      Named env (Tree.beforeMergeKey entries ++
        ((Tree.behindMergeKey entries).getLast?.toList ++ (Tree.behindMergeKey entries).dropLast)) names) ∧
    (InDocumentOrder env entries arguments ↔ (Tree.behindMergeKey entries).length ≤ 1) := by
  obtain ⟨names, later, named, keys⟩ := exists_keys_eq_explicit read parsed part apart
  rw [Tree.explicitEntries_eq] at named
  refine ⟨⟨names, later, keys, named⟩, ?_⟩
  have distinct : arguments.keys.Nodup := by
    obtain ⟨merged, pairs, _, rfl, _⟩ := part.merged_of_parsed read parsed
    exact Entries.nodup_keys_ofList pairs
  rw [InDocumentOrder, (part.keysApart read).writtenEntries_eq]
  rcases List.eq_nil_or_concat' (Tree.behindMergeKey entries) with empty | ⟨middle, last, split⟩
  · rw [empty] at named ⊢
    refine iff_of_true ⟨names, named, ?_⟩ (Nat.zero_le 1)
    rw [keys]
    exact List.sublist_append_left names later
  · rw [split, List.getLast?_concat, List.dropLast_concat] at named
    -- `name` belongs to the entry that is moved, `between` to those that it is moved over
    obtain ⟨front, _, rfl, inFront, moved⟩ := forall₂_append_left named
    obtain ⟨name, between, atLast, inMiddle, rfl⟩ := List.forall₂_cons_left_iff.mp moved
    have written : Named env (Tree.beforeMergeKey entries ++ (middle ++ [last])) (front ++ (between ++ [name])) :=
      List.rel_append inFront (List.rel_append inMiddle (.cons atLast .nil))
    rw [List.append_assoc, List.cons_append] at keys
    rw [keys] at distinct
    have sameLength : middle.length = between.length := inMiddle.length_eq
    have nearEnd : between = [] ↔ (middle ++ [last]).length ≤ 1 := by
      rw [← List.length_eq_zero_iff, ← sameLength, List.length_append, List.length_singleton]
      omega
    rw [split, keys, ← nearEnd, ← sublist_moved_iff distinct]
    constructor
    · intro ordered
      obtain ⟨others, again, inOrder⟩ := ordered
      rwa [written.unique again]
    · exact fun inOrder => ⟨_, written, inOrder⟩

/-- A document with one argument, which is a mapping. -/
def nested (entries : List (Tree × Tree)) : Tree := .mapping [(.string "m", .mapping entries)]

theorem part_nested (env : Environment) (entries : List (Tree × Tree)) (arguments : Arguments) :
    Part env (.mapping entries) (.mapping arguments) (nested entries) (.mapping [("m", .mapping arguments)]) := by
  have last : LastNamed env [(.string "m", .mapping entries)] "m" (.mapping entries) :=
    ⟨[], .string "m", [], rfl, by cbv, List.forall_mem_nil _⟩
  exact .entry rfl last rfl .whole

/-- A mapping with its merge key between two other keys. -/
def mergeKeyBetween : String := "m:\n  a: 1\n  <<:\n    k: 0\n  b: 2\n"

def entriesBetween : List (Tree × Tree) :=
  [(.string "a", .integer 1), (.string "<<", .mapping [(.string "k", .integer 0)]), (.string "b", .integer 2)]

theorem named_ab : Named (fun _ => none) [(.string "a", .integer 1), (.string "b", .integer 2)] ["a", "b"] :=
  .cons (by cbv) (.cons (by cbv) .nil)

theorem inDocumentOrder_between : InDocumentOrder (fun _ => none) entriesBetween
    [("a", .integer 1), ("b", .integer 2), ("k", .integer 0)] := by
  have read : Tree.read mergeKeyBetween = .ok (nested entriesBetween) := by cbv
  have gives : Gives (fun _ => none) (nested entriesBetween)
      (.mapping [("m", .mapping [("a", .integer 1), ("b", .integer 2), ("k", .integer 0)])]) :=
    ⟨_, rfl, by cbv⟩
  have parsed : (parseArguments (fun _ => none) mergeKeyBetween).outcome = .ok _ :=
    outcome_ofText_eq_ok_iff.mpr ⟨_, read, Or.inl gives⟩
  have apart := named_ab.namesApart_iff.mpr (by decide)
  exact (inDocumentOrder_iff read parsed (part_nested ..) apart).2.mpr (by decide)

/-- A mapping with its merge key in front of two other keys. -/
def mergeKeyFirst : String := "m:\n  <<:\n    k: 0\n  a: 1\n  b: 2\n"

def entriesBehind : List (Tree × Tree) :=
  [(.string "<<", .mapping [(.string "k", .integer 0)]), (.string "a", .integer 1), (.string "b", .integer 2)]

def movedEntries : List (Tree × Tree) :=
  [(.string "b", .integer 2), (.string "a", .integer 1), (.string "k", .integer 0)]

theorem namesApart_nested_moved :
    ∀ entries, (Tree.mapping entries).PartOf (nested movedEntries) → NamesApart (fun _ => none) entries := by
  intro entries part
  cases part with
  | whole => exact List.pairwise_singleton _ _
  | value member part =>
    cases List.mem_singleton.mp member
    cases part with
    | whole =>
      have named : Named (fun _ => none) movedEntries ["b", "a", "k"] :=
        .cons (by cbv) (.cons (by cbv) (.cons (by cbv) .nil))
      exact named.namesApart_iff.mpr (by decide)
    | value member part =>
      simp only [movedEntries, List.mem_cons, Prod.mk.injEq, List.not_mem_nil, or_false] at member
      rcases member with ⟨_, rfl⟩ | ⟨_, rfl⟩ | ⟨_, rfl⟩ <;> cases part

theorem not_inDocumentOrder_first : ¬ ∀ (env : Environment) (text : String) (tree document : Tree)
    (result : Arguments), Tree.read text = .ok tree → Loading.tree text = .ok document →
    (parseArguments env text).outcome = .ok result →
    (∀ entries, (Tree.mapping entries).PartOf document → NamesApart env entries) →
    ∀ (entries : List (Tree × Tree)) (arguments : Arguments),
      Part env (.mapping entries) (.mapping arguments) tree (.mapping result) →
      InDocumentOrder env entries arguments := by
  intro ordered
  have read : Tree.read mergeKeyFirst = .ok (nested entriesBehind) := by cbv
  have expands : (nested entriesBehind).expandMerges = .ok (nested movedEntries) := rfl
  have loaded : Loading.tree mergeKeyFirst = .ok (nested movedEntries) := by
    rw [Loading.tree, read]
    exact expands
  have gives : Gives (fun _ => none) (nested entriesBehind)
      (.mapping [("m", .mapping [("b", .integer 2), ("a", .integer 1), ("k", .integer 0)])]) :=
    ⟨_, expands, by cbv⟩
  have parsed : (parseArguments (fun _ => none) mergeKeyFirst).outcome = .ok _ :=
    outcome_ofText_eq_ok_iff.mpr ⟨_, read, Or.inl gives⟩
  obtain ⟨names, named, inOrder⟩ := ordered _ _ _ _ _ read loaded parsed namesApart_nested_moved _ _ (part_nested ..)
  rw [← named_ab.unique named] at inOrder
  exact absurd inOrder (by decide)

end Loading

end Overlay
