import Overlay.Yaml.Token

namespace Overlay.Yaml

/-- What may stand in front of a node: a number that aliases refer to, and a
tag. -/
structure Properties where
  anchor : Option Nat
  tag : Option Octets
  deriving DecidableEq, Repr

def Properties.none : Properties := ⟨.none, .none⟩

/-- A document as it is written: aliases are not followed, scalars are texts. -/
inductive Node where
  | alias (anchor : Nat)
  | scalar (properties : Properties) (plain : Bool) (text : String)
  | sequence (properties : Properties) (items : List Node)
  | mapping (properties : Properties) (entries : List (Node × Node))
  deriving Inhabited

namespace Node

def empty : Node := .scalar .none true ""

def anchor? : Node → Option Nat
  | .alias _ => .none
  | .scalar properties .. | .sequence properties _ | .mapping properties _ => properties.anchor

mutual

/-- The number of marks that make up a node: one for a scalar or an alias, and
two around a collection. -/
def size : Node → Nat
  | .alias _ => 1
  | .scalar .. => 1
  | .sequence _ items => 2 + sizeOfItems items
  | .mapping _ entries => 2 + sizeOfEntries entries

def sizeOfItems : List Node → Nat
  | [] => 0
  | item :: rest => item.size + sizeOfItems rest

def sizeOfEntries : List (Node × Node) → Nat
  | [] => 0
  | (key, value) :: rest => key.size + value.size + sizeOfEntries rest

end

mutual

/-- The nodes that carry an anchor, in the order in which they begin. -/
def anchored (node : Node) : List (Nat × Node) :=
  let here := node.anchor?.toList.map fun anchor => (anchor, node)
  match node with
  | .alias _ => here
  | .scalar .. => here
  | .sequence _ items => here ++ anchoredItems items
  | .mapping _ entries => here ++ anchoredEntries entries

def anchoredItems : List Node → List (Nat × Node)
  | [] => []
  | item :: rest => item.anchored ++ anchoredItems rest

def anchoredEntries : List (Node × Node) → List (Nat × Node)
  | [] => []
  | (key, value) :: rest => key.anchored ++ value.anchored ++ anchoredEntries rest

end

end Node

end Overlay.Yaml
