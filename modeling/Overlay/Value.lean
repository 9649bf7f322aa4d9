import Overlay.Double
import Overlay.Entries

namespace Overlay

/-- The types of argument values; integers and floats are different types. -/
inductive Kind where
  | null
  | bool
  | integer
  | float
  | string
  | sequence
  | mapping
  deriving DecidableEq, Repr

def Kind.name : Kind → String
  | .null => "null"
  | .bool => "bool"
  | .integer => "integer"
  | .float => "float"
  | .string => "string"
  | .sequence => "sequence"
  | .mapping => "mapping"

/-- The value of an argument. A mapping keeps its entries in order; every
operation of this library keeps their names distinct. -/
inductive Value where
  | null
  | bool (value : Bool)
  | integer (value : Int64)
  | float (value : Double)
  | string (text : String)
  | sequence (items : List Value)
  | mapping (entries : List (String × Value))
  deriving Inhabited

abbrev Arguments := Entries Value

namespace Value

def kind : Value → Kind
  | .null => .null
  | .bool _ => .bool
  | .integer _ => .integer
  | .float _ => .float
  | .string _ => .string
  | .sequence _ => .sequence
  | .mapping _ => .mapping

def isNull : Value → Bool
  | .null => true
  | _ => false

def bool? : Value → Option Bool
  | .bool value => some value
  | _ => none

def integer? : Value → Option Int64
  | .integer value => some value
  | _ => none

def float? : Value → Option Double
  | .float value => some value
  | _ => none

def string? : Value → Option String
  | .string text => some text
  | _ => none

def sequence? : Value → Option (List Value)
  | .sequence items => some items
  | _ => none

def mapping? : Value → Option Arguments
  | .mapping entries => some entries
  | _ => none

mutual

/-- Numeric equality on floats, item by item on sequences; mappings are equal
when each name has equal values in both, in whatever order. -/
def equal : Value → Value → Bool
  | .null, .null => true
  | .bool a, .bool b => a == b
  | .integer a, .integer b => a == b
  | .float a, .float b => a.equal b
  | .string a, .string b => a == b
  | .sequence as, .sequence bs => equalItems as bs
  | .mapping as, .mapping bs => as.length == bs.length && equalWithin as bs
  | _, _ => false

def equalItems : List Value → List Value → Bool
  | [], [] => true
  | a :: as, b :: bs => equal a b && equalItems as bs
  | _, _ => false

def equalWithin : List (String × Value) → List (String × Value) → Bool
  | [], _ => true
  | (name, a) :: rest, bs =>
    (match Entries.get? bs name with
      | some b => equal a b
      | none => false) && equalWithin rest bs

end

mutual

def hasNaN : Value → Bool
  | .float value => value.isNaN
  | .sequence items => hasNaNItems items
  | .mapping entries => hasNaNEntries entries
  | _ => false

def hasNaNItems : List Value → Bool
  | [] => false
  | item :: rest => hasNaN item || hasNaNItems rest

def hasNaNEntries : List (String × Value) → Bool
  | [] => false
  | (_, value) :: rest => hasNaN value || hasNaNEntries rest

end

theorem isNull_iff_kind (value : Value) : value.isNull = true ↔ value.kind = .null := by
  cases value <;> simp [isNull, kind]

theorem kind_eq_mapping_iff {value : Value} : value.kind = .mapping ↔ ∃ entries, value = .mapping entries := by
  cases value <;> simp [kind]

end Value

end Overlay
