import Overlay.Yaml.Fault
import Overlay.Yaml.Tree

namespace Overlay.Yaml

namespace Tree

def isMergeKey : Tree → Bool
  | .string text => text == "<<"
  | _ => false

/-- Takes the entry with the merge key out of a mapping: its value, and the
other entries, of which the last one moves into its place. -/
def takeMergeKey (entries : List (Tree × Tree)) : Option (Tree × List (Tree × Tree)) :=
  let before := entries.takeWhile fun entry => !entry.1.isMergeKey
  match entries.dropWhile fun entry => !entry.1.isMergeKey with
  | [] => none
  | (_, value) :: after =>
    match after.getLast? with
    | none => some (value, before)
    | some last => some (value, before ++ last :: after.dropLast)

def absorb (entries : List (Tree × Tree)) : List (Tree × Tree) → List (Tree × Tree)
  | [] => entries
  | entry :: rest => absorb (if hasKey entries entry.1 then entries else entries ++ [entry]) rest

def mergeItem : Tree → Except Fault (List (Tree × Tree))
  | .mapping entries => .ok entries
  | .sequence _ => .error .sequenceInMerge
  | .tagged .. => .error .taggedInMerge
  | _ => .error .scalarInMerge

/-- The mappings to merge: one, or a sequence of them. -/
def mergeSources : Tree → Except Fault (List (List (Tree × Tree)))
  | .sequence items => items.mapM mergeItem
  | tree => (mergeItem tree).map ([·])

/-- Carries out the merge key of one mapping. A merge key among the merged
entries is an entry like any other. -/
def mergeEntries (entries : List (Tree × Tree)) : Except Fault (List (Tree × Tree)) :=
  match takeMergeKey entries with
  | none => .ok entries
  | some (value, others) => (mergeSources value).map fun sources => sources.foldl absorb others

mutual

/-- How many steps lead from the root to the lowest leaf. Keys do not count. -/
def height : Tree → Nat
  | .sequence items => 1 + heightOfItems items
  | .mapping entries => 1 + heightOfValues entries
  | .tagged _ content => 1 + content.height
  | _ => 1

def heightOfItems : List Tree → Nat
  | [] => 0
  | item :: rest => max item.height (heightOfItems rest)

def heightOfValues : List (Tree × Tree) → Nat
  | [] => 0
  | (_, value) :: rest => max value.height (heightOfValues rest)

end

/-- Carries out the merge keys of the mappings down to a depth, the outermost
first. -/
def expandWithin : Nat → Tree → Except Fault Tree
  | 0, tree => .ok tree
  | depth + 1, .mapping entries => do
    let merged ← mergeEntries entries
    let entries ← merged.mapM fun (key, value) => return (key, ← expandWithin depth value)
    return .mapping entries
  | depth + 1, .sequence items => do
    let items ← items.mapM (expandWithin depth)
    return .sequence items
  | depth + 1, .tagged tag content => do
    let content ← expandWithin depth content
    return .tagged tag content
  | _, tree => .ok tree

/-- Carries out all merge keys; a merged mapping is no higher than the value
that it comes from. -/
def expandMerges (tree : Tree) : Except Fault Tree := expandWithin tree.height tree

end Tree

end Overlay.Yaml
