import Mathlib
import Overlay.Proofs.MemberInduction
import Overlay.Proofs.PlaceholderNames
import Overlay.Proofs.WellFormedTrees

namespace Overlay

open Yaml (Tree)

/-- How a run ends, given the failure that it has to report, if any. -/
def Run.FailsWith {α : Type} (run : Run α) : Option Failure → Prop
  | some failure => run.outcome = .error failure
  | none => ∃ value, run.outcome = .ok value

namespace Run

variable {α β : Type} {run : Run α} {fault more : Option Failure}

theorem failsWith_pure (value : α) : (pure value : Run α).FailsWith none := ⟨value, rfl⟩

/-- The rule for computations in sequence: the fault is that of the first, or
else that of the second. It is asked of the second for all values, as the fault
never depends on the value. -/
theorem FailsWith.bind {next : α → Run β} (here : run.FailsWith fault) (later : ∀ value, (next value).FailsWith more) :
    (run >>= next).FailsWith (fault.or more) := by
  cases fault with
  | some failure =>
    have failed : run.outcome = .error failure := here
    rw [Option.some_or, FailsWith, outcome_bind, failed, Except.bind]
  | none =>
    obtain ⟨value, success⟩ := here
    have behind := later value
    rw [Option.none_or]
    cases more with
    | some failure => rw [FailsWith, outcome_bind, success, Except.bind, behind]
    | none =>
      obtain ⟨result, successBehind⟩ := behind
      exact ⟨result, outcome_bind_eq_ok_iff.mpr ⟨value, success, successBehind⟩⟩

theorem FailsWith.map (here : run.FailsWith fault) (f : α → β) :
    (run >>= fun value => pure (f value)).FailsWith fault := by
  have mapped := here.bind fun value => failsWith_pure (f value)
  rwa [Option.or_none] at mapped

theorem FailsWith.error_iff (here : run.FailsWith fault) {failure : Failure} :
    run.outcome = .error failure ↔ fault = some failure := by
  cases fault with
  | some found =>
    have failed : run.outcome = .error found := here
    simp [failed]
  | none =>
    obtain ⟨value, success⟩ := here
    simp [success]

/-- A run with this fault succeeds exactly if there is none. -/
theorem FailsWith.ok_iff (here : run.FailsWith fault) : (∃ value, run.outcome = .ok value) ↔ fault = none := by
  cases fault with
  | some found =>
    have failed : run.outcome = .error found := here
    simp [failed]
  | none => exact iff_of_true here rfl

end Run

/-- Where a node stands: it is the key of an entry, or a value. -/
inductive Role where
  | key
  | value
  deriving DecidableEq

namespace Yaml.Tree

mutual

/-- All nodes of a tree, depth first: a collection stands in front of what it
holds, items and entries come in their order, and of an entry the key comes
before the value. Tags are passed through. -/
def nodes (role : Role) : Tree → List (Role × Tree)
  | .sequence items => (role, .sequence items) :: nodesOfItems items
  | .mapping entries => (role, .mapping entries) :: nodesOfEntries entries
  | .tagged _ content => content.nodes role
  | tree => [(role, tree)]

def nodesOfItems : List Tree → List (Role × Tree)
  | [] => []
  | item :: rest => item.nodes .value ++ nodesOfItems rest

def nodesOfEntries : List (Tree × Tree) → List (Role × Tree)
  | [] => []
  | (key, value) :: rest => key.nodes .key ++ (value.nodes .value ++ nodesOfEntries rest)

end

theorem mem_nodesOfItems {items : List Tree} {node : Role × Tree} :
    node ∈ nodesOfItems items ↔ ∃ item ∈ items, node ∈ item.nodes .value := by
  induction items with
  | nil => simp [nodesOfItems]
  | cons item rest ih => rw [nodesOfItems, List.mem_append, ih, List.exists_mem_cons_iff]

/-- The nodes of entries are those of the keys and of the values; a key may be a
collection with nodes of its own. -/
theorem mem_nodesOfEntries {entries : List (Tree × Tree)} {node : Role × Tree} :
    node ∈ nodesOfEntries entries ↔ ∃ entry ∈ entries, node ∈ entry.1.nodes .key ∨ node ∈ entry.2.nodes .value := by
  induction entries with
  | nil => simp [nodesOfEntries]
  | cons entry rest ih =>
    rw [nodesOfEntries, List.mem_append, List.mem_append, ih, List.exists_mem_cons_iff, or_assoc]

/-- Every integer that stands as a value is a signed or an unsigned one of 64
bits. -/
def HasNumbers (tree : Tree) : Prop :=
  ∀ n, (Role.value, Tree.integer n) ∈ tree.nodes .value → -0x8000000000000000 ≤ n ∧ n < 0x10000000000000000

/-- What a document has for numbers, every part of it has. -/
theorem HasNumbers.items {items : List Tree} (numbers : (Tree.sequence items).HasNumbers) :
    ∀ item ∈ items, item.HasNumbers := by
  intro item member n inItem
  exact numbers n (List.mem_cons_of_mem _ (mem_nodesOfItems.mpr ⟨item, member, inItem⟩))

theorem HasNumbers.values {entries : List (Tree × Tree)} (numbers : (Tree.mapping entries).HasNumbers) :
    ∀ entry ∈ entries, entry.2.HasNumbers := by
  intro entry member n inValue
  exact numbers n (List.mem_cons_of_mem _ (mem_nodesOfEntries.mpr ⟨entry, member, Or.inr inValue⟩))

/-- Trees that are read satisfy the condition, so that it restricts no document.
-/
theorem WellFormed.hasNumbers {tree : Tree} (wellFormed : tree.WellFormed) : tree.HasNumbers := by
  -- also in a key that is a collection there are values
  suffices everywhere : ∀ role n, (Role.value, Tree.integer n) ∈ tree.nodes role →
      -0x8000000000000000 ≤ n ∧ n < 0x10000000000000000 from everywhere .value
  induction wellFormed with
  | integer low high =>
    intro role n member
    simp only [nodes, List.mem_singleton] at member
    cases member
    exact ⟨low, high⟩
  | sequence _ ih =>
    intro role n member
    rcases List.mem_cons.mp member with impossible | inside
    · cases impossible
    · obtain ⟨item, inItems, inItem⟩ := mem_nodesOfItems.mp inside
      exact ih item inItems .value n inItem
  | mapping _ _ _ atKeys atValues =>
    intro role n member
    rcases List.mem_cons.mp member with impossible | inside
    · cases impossible
    · obtain ⟨entry, inEntries, inKey | inValue⟩ := mem_nodesOfEntries.mp inside
      · exact atKeys entry inEntries .key n inKey
      · exact atValues entry inEntries .value n inValue
  | tagged _ ih => exact fun role n member => ih role n member
  | _ =>
    intro role n member
    simp only [nodes, List.mem_singleton] at member
    cases member

end Yaml.Tree

/-- A substitution fails with the first variable of the text that is not set. -/
theorem Placeholder.substitute_failsWith (env : Environment) (text : String) :
    (Placeholder.substitute env text).FailsWith ((Placeholder.missing? env text).map .missingVariable) := by
  cases missing : Placeholder.missing? env text with
  | some name => exact Placeholder.outcome_substitute_of_missing missing
  | none => exact ⟨_, Placeholder.outcome_substitute_of_complete missing⟩

namespace Conversion

/-- What is wrong with a node by itself: a string refers to a variable that is
not set, an integer is too large for a value, or a collection stands as a key.
-/
def fault? (env : Environment) : Role × Tree → Option Failure
  | (_, .string text) => (Placeholder.missing? env text).map .missingVariable
  | (.value, .integer n) =>
    if 0x7FFFFFFFFFFFFFFF < n then some (.invalidDocument (.integerOutOfRange n.toNat)) else none
  | (.key, .sequence _) | (.key, .mapping _) => some (.invalidDocument .collectionAsKey)
  | _ => none

variable {env : Environment}

/-- A key is converted like a leaf, and is wrong by itself if it is a
collection. -/
theorem keyName_failsWith (env : Environment) (key : Tree) :
    (keyName env key).FailsWith ((key.nodes .key).findSome? (fault? env)) := by
  induction key using Tree.memberInduction with
  | string text =>
    simp only [keyName, Tree.nodes, List.findSome?_singleton]
    exact Placeholder.substitute_failsWith env text
  | sequence | mapping => rfl
  | tagged _ _ ih => rwa [keyName, Tree.nodes]
  | _ => exact Run.failsWith_pure _

theorem values_failsWith {items : List Tree}
    (each : ∀ item ∈ items, (value env item).FailsWith ((item.nodes .value).findSome? (fault? env))) :
    (values env items).FailsWith ((Tree.nodesOfItems items).findSome? (fault? env)) := by
  induction items with
  | nil => exact Run.failsWith_pure []
  | cons item rest ih =>
    obtain ⟨here, later⟩ := List.forall_mem_cons.mp each
    rw [values, Tree.nodesOfItems, List.findSome?_append]
    exact here.bind fun first => (ih later).map (first :: ·)

/-- Entry by entry, and in each the key before the value. -/
theorem arguments_failsWith {entries : List (Tree × Tree)}
    (each : ∀ entry ∈ entries, (value env entry.2).FailsWith ((entry.2.nodes .value).findSome? (fault? env)))
    (earlier : Arguments) :
    (arguments env earlier entries).FailsWith ((Tree.nodesOfEntries entries).findSome? (fault? env)) := by
  induction entries generalizing earlier with
  | nil => exact Run.failsWith_pure earlier
  | cons entry rest ih =>
    obtain ⟨key, item⟩ := entry
    obtain ⟨here, later⟩ := List.forall_mem_cons.mp each
    rw [arguments, Tree.nodesOfEntries, List.findSome?_append, List.findSome?_append]
    exact (keyName_failsWith env key).bind fun name => here.bind fun first => ih later (earlier.insert name first)

/-- The conversion goes through the nodes in the order in which they are listed.
By induction on the tree, with one of the rules above for each kind of node. -/
theorem value_failsWith (env : Environment) {tree : Tree} (numbers : tree.HasNumbers) :
    (value env tree).FailsWith ((tree.nodes .value).findSome? (fault? env)) := by
  induction tree using Tree.memberInduction with
  | integer n =>
    obtain ⟨low, high⟩ := numbers n List.mem_cons_self
    simp only [value, Tree.nodes, List.findSome?_singleton, fault?]
    by_cases large : 0x7FFFFFFFFFFFFFFF < n
    -- no integer is below the range, by the condition on numbers, so only one above it is wrong
    · have outside : inRange n = false := by
        simp only [inRange, Bool.and_eq_false_iff, decide_eq_false_iff_not]
        omega
      have unsigned : 0 ≤ n ∧ n < 0x10000000000000000 := by omega
      rw [outside, if_neg Bool.false_ne_true, if_pos large, numberFault, if_pos unsigned]
      rfl
    · have inside : inRange n = true := by
        simp only [inRange, Bool.and_eq_true, decide_eq_true_eq]
        omega
      rw [if_pos inside, if_neg large]
      exact Run.failsWith_pure _
  | string text =>
    simp only [value, Tree.nodes, List.findSome?_singleton]
    exact (Placeholder.substitute_failsWith env text).map Value.string
  | sequence items ih =>
    rw [value, Tree.nodes, List.findSome?_cons]
    exact (values_failsWith fun item member => ih item member (numbers.items item member)).map Value.sequence
  | mapping entries ih =>
    rw [value, Tree.nodes, List.findSome?_cons]
    have each := fun entry member => (ih entry member).2 (numbers.values entry member)
    exact (arguments_failsWith each []).map Value.mapping
  | tagged _ _ ih =>
    rw [value, Tree.nodes]
    exact ih numbers
  | _ => exact Run.failsWith_pure _

/-- A conversion succeeds exactly if no node of the tree is wrong by itself, and
else it fails with what is wrong with the first such node. Since every number
fits into 64 bits, none is unsupported, and one that is out of range is named.
-/
theorem value_reports_first_fault (env : Environment) {tree : Tree} (numbers : tree.HasNumbers) :
    ((∃ result, (value env tree).outcome = .ok result) ↔ ∀ node ∈ tree.nodes .value, fault? env node = none) ∧
    (∀ failure, (value env tree).outcome = .error failure ↔
      ∃ before node after, tree.nodes .value = before ++ node :: after ∧ fault? env node = some failure ∧
        ∀ earlier ∈ before, fault? env earlier = none) ∧
    (∀ n, (value env tree).outcome ≠ .error (.invalidDocument (.unsupportedNumber n))) ∧
    ∀ n : Int, 0x7FFFFFFFFFFFFFFF < n →
      (DocumentFault.integerOutOfRange n.toNat).message = "integer " ++ toString n ++ " is out of range" := by
  have ends := value_failsWith env numbers
  have first : ∀ failure, (value env tree).outcome = .error failure ↔
      ∃ before node after, tree.nodes .value = before ++ node :: after ∧ fault? env node = some failure ∧
        ∀ earlier ∈ before, fault? env earlier = none := by
    intro failure
    rw [ends.error_iff, List.findSome?_eq_some_iff]
  refine ⟨by rw [ends.ok_iff, List.findSome?_eq_none_iff], first, fun n failed => ?_, fun n large => ?_⟩
  · obtain ⟨_, ⟨role, node⟩, _, _, atNode, _⟩ := (first _).mp failed
    unfold fault? at atNode
    split at atNode
    · obtain ⟨_, _, impossible⟩ := Option.map_eq_some_iff.mp atNode
      cases impossible
    · split at atNode <;> cases atNode
    · cases atNode
    · cases atNode
    · cases atNode
  · obtain ⟨m, rfl⟩ := Int.eq_ofNat_of_zero_le (show 0 ≤ n by omega)
    rfl

/-- A set variable in a tagged key, and behind it an unset variable in an item
and a key that is a collection. -/
def severalFaults : String := "? !t $\x7bA\x7d\n: - 1\n  - $\x7bB\x7d\n? []\n: ~\n"

/-- The items of the sequence, an unset variable and then a mapping with a
sequence for a key. -/
def severalFaultsItems : List Tree := [.integer 1, .string "$\x7bB\x7d"]

def severalFaultsTree : Tree :=
  .mapping [(.tagged "t" (.string "$\x7bA\x7d"), .sequence severalFaultsItems), (.sequence [], .null)]

theorem read_severalFaults : Tree.read severalFaults = .ok severalFaultsTree := by cbv

theorem nodes_severalFaultsTree : severalFaultsTree.nodes .value =
    [(.value, severalFaultsTree), (.key, .string "$\x7bA\x7d"), (.value, .sequence severalFaultsItems),
      (.value, .integer 1)] ++ (.value, .string "$\x7bB\x7d") :: [(.key, .sequence []), (.value, .null)] := by
  simp [severalFaultsTree, severalFaultsItems, Tree.nodes, Tree.nodesOfItems, Tree.nodesOfEntries]

/-- The document reports the item and not the key behind it. -/
theorem value_reports_first_fault_item : severalFaultsTree.HasNumbers ∧
    (value (Environment.single "A" "k") severalFaultsTree).outcome = .error (.missingVariable "B") := by
  have numbers := (Tree.wellFormed_of_read read_severalFaults).hasNumbers
  obtain ⟨_, reports, _⟩ := value_reports_first_fault (Environment.single "A" "k") numbers
  have before : ∀ earlier ∈ [(Role.value, severalFaultsTree), (.key, .string "$\x7bA\x7d"),
      (.value, .sequence severalFaultsItems), (.value, .integer 1)],
      fault? (Environment.single "A" "k") earlier = none := by
    simp only [List.forall_mem_cons]
    exact ⟨rfl, by cbv, rfl, rfl, List.forall_mem_nil _⟩
  exact ⟨numbers, (reports _).mpr ⟨_, _, _, nodes_severalFaultsTree, by cbv, before⟩⟩

end Conversion

end Overlay
