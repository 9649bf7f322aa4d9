import Overlay.Double

namespace Overlay.Yaml

/-- The content of a document. Integers lie between `-2^63` and `2^64 - 1`; the
keys of a mapping differ from each other. -/
inductive Tree where
  | null
  | bool (value : Bool)
  | integer (value : Int)
  | float (value : Double)
  | string (text : String)
  | sequence (items : List Tree)
  | mapping (entries : List (Tree × Tree))
  | tagged (tag : String) (content : Tree)
  deriving Inhabited

namespace Tree

/-- Equality of floats as keys: all NaNs are the same key. -/
def sameFloat (a b : Double) : Bool := (a.isNaN && b.isNaN) || a.equal b

mutual

/-- Equality of trees as keys of a mapping: mappings are the same in whatever
order, tags must be the same. -/
def same : Tree → Tree → Bool
  | .null, .null => true
  | .bool a, .bool b => a == b
  | .integer a, .integer b => a == b
  | .float a, .float b => sameFloat a b
  | .string a, .string b => a == b
  | .sequence as, .sequence bs => sameItems as bs
  | .mapping as, .mapping bs => as.length == bs.length && sameWithin as bs
  | .tagged tag a, .tagged other b => tag == other && same a b
  | _, _ => false

def sameItems : List Tree → List Tree → Bool
  | [], [] => true
  | a :: as, b :: bs => same a b && sameItems as bs
  | _, _ => false

def sameWithin : List (Tree × Tree) → List (Tree × Tree) → Bool
  | [], _ => true
  | (key, value) :: rest, bs =>
    (bs.any fun (otherKey, otherValue) => same key otherKey && same value otherValue) && sameWithin rest bs

end

def hasKey (entries : List (Tree × Tree)) (key : Tree) : Bool := entries.any fun entry => key.same entry.1

def untagged : Tree → Tree
  | .tagged _ content => content.untagged
  | tree => tree

end Tree

end Overlay.Yaml
