import Overlay.Placeholder
import Overlay.Yaml.Composition
import Overlay.Yaml.FloatText

namespace Overlay

open Yaml (Tree)

namespace Conversion

/-- The integers that a value can hold. -/
def inRange (value : Int) : Bool := -0x8000000000000000 ≤ value && value < 0x8000000000000000

/-- Why an integer that no value can hold is refused. Unsigned ones of 64 bits
are out of range; a document holds no others. -/
def numberFault (value : Int) : DocumentFault :=
  if 0 ≤ value ∧ value < 0x10000000000000000 then .integerOutOfRange value.toNat else .unsupportedNumber value

/-- The name that a key stands for: a string with its references replaced,
another scalar as it is written. Tags do not count. -/
def keyName (env : Environment) : Tree → Run String
  | .string text => Placeholder.substitute env text
  | .bool value => pure (if value then "true" else "false")
  | .integer value => pure (toString value)
  | .float value => pure (String.ofList (Yaml.floatText value))
  | .null => pure "null"
  | .tagged _ content => keyName env content
  | .sequence _ | .mapping _ => Run.fail (.invalidDocument .collectionAsKey)

mutual

/-- The value of a tree, with the references in its strings replaced. Tags do
not count. -/
def value (env : Environment) : Tree → Run Value
  | .null => pure .null
  | .bool value => pure (.bool value)
  | .integer value =>
    if inRange value then pure (.integer (Int64.ofInt value))
    else Run.fail (.invalidDocument (numberFault value))
  | .float value => pure (.float value)
  | .string text => do
    let text ← Placeholder.substitute env text
    return .string text
  | .sequence items => do
    let items ← values env items
    return .sequence items
  | .mapping entries => do
    let entries ← arguments env [] entries
    return .mapping entries
  | .tagged _ content => value env content

def values (env : Environment) : List Tree → Run (List Value)
  | [] => pure []
  | item :: rest => do
    let item ← value env item
    let rest ← values env rest
    return item :: rest

def arguments (env : Environment) (earlier : Arguments) : List (Tree × Tree) → Run Arguments
  | [] => pure earlier
  | (key, item) :: rest => do
    let name ← keyName env key
    let item ← value env item
    arguments env (earlier.insert name item) rest

end

/-- The value of a text on a command line: what it says as a scalar without tag,
or else the text itself. Blank text does not stand for null, and references are
not replaced. -/
def scalar (text : String) : Value :=
  match Tree.read text with
  | .ok .null => if Text.trim text.toList = [] then .string text else .null
  | .ok (.bool value) => .bool value
  | .ok (.integer value) => if inRange value then .integer (Int64.ofInt value) else .string text
  | .ok (.float value) => .float value
  | .ok (.string content) => .string content
  | _ => .string text

end Conversion

end Overlay
