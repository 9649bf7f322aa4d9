import Overlay.Double.Notation
import Overlay.Value

namespace Overlay.Json

/-- Floats from `0.00001` to below ten to the sixteenth are written without
exponent. -/
def floatNotation : Notation := ⟨-5, 16, true⟩

/-- Infinities and NaNs have no number to stand for them. -/
def floatText (x : Double) : List Char :=
  if x.isFinite then floatNotation.finite x else "null".toList

/-- Quotes, backslashes and control characters are escaped. -/
def escape (c : Char) : List Char :=
  if c = '"' then ['\\', '"']
  else if c = '\\' then ['\\', '\\']
  else if c = '\x08' then ['\\', 'b']
  else if c = '\x0C' then ['\\', 'f']
  else if c = '\n' then ['\\', 'n']
  else if c = '\r' then ['\\', 'r']
  else if c = '\t' then ['\\', 't']
  else if c.toNat < 0x20 then
    ['\\', 'u', '0', '0', Nat.digitChar (c.toNat / 16), Nat.digitChar (c.toNat % 16)]
  else [c]

def stringText (text : String) : List Char := '"' :: text.toList.flatMap escape ++ ['"']

/-- How the parts of a collection are set apart: on one line, or each on a line
of its own. -/
inductive Layout where
  | compact
  | pretty
  deriving DecidableEq

namespace Layout

def newLine (level : Nat) : Layout → List Char
  | .compact => []
  | .pretty => '\n' :: List.replicate (2 * level) ' '

def colon : Layout → List Char
  | .compact => [':']
  | .pretty => [':', ' ']

def enclose (layout : Layout) (level : Nat) (opening closing : Char) (parts : List (List Char)) : List Char :=
  if parts = [] then [opening, closing]
  else
    opening :: layout.newLine (level + 1) ++ (parts.intersperse (',' :: layout.newLine (level + 1))).flatten ++
      layout.newLine level ++ [closing]

end Layout

mutual

/-- The text of a value inside as many collections as the level says. -/
def valueText (layout : Layout) (level : Nat) : Value → List Char
  | .null => "null".toList
  | .bool value => (if value then "true" else "false").toList
  | .integer value => (toString value.toInt).toList
  | .float value => floatText value
  | .string text => stringText text
  | .sequence items => layout.enclose level '[' ']' (itemTexts layout (level + 1) items)
  | .mapping entries => layout.enclose level '{' '}' (entryTexts layout (level + 1) entries)

def itemTexts (layout : Layout) (level : Nat) : List Value → List (List Char)
  | [] => []
  | item :: rest => valueText layout level item :: itemTexts layout level rest

def entryTexts (layout : Layout) (level : Nat) : List (String × Value) → List (List Char)
  | [] => []
  | (key, value) :: rest =>
    (stringText key ++ layout.colon ++ valueText layout level value) :: entryTexts layout level rest

end

def print (layout : Layout) (value : Value) : String := String.ofList (valueText layout 0 value)

end Overlay.Json
