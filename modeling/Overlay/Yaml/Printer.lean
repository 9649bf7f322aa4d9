import Overlay.Value
import Overlay.Yaml.FloatText
import Overlay.Yaml.ScalarText

namespace Overlay.Yaml

/-- What stands in front of a value: nothing, a key with its colon, or one of
the marks of sequences and of keys that need a line of their own. -/
inductive Before where
  | nothing
  | key
  | mark

/-- Whether a key can stand on one line with its value: it has one line itself,
of at most 128 bytes. -/
def isSimpleKey (key : String) : Bool := key.utf8ByteSize ≤ 128 && !key.toList.any isBreak

/-- A line break, unless the text just ended a line. -/
def freshLine (text : List Char) : List Char := if text.getLast?.any isBreak then [] else ['\n']

def joinLines (indent : Nat) : List (List Char) → List Char
  | [] => []
  | [text] => text
  | text :: rest => text ++ freshLine text ++ spaces indent ++ joinLines indent rest

namespace Before

def space : Before → List Char
  | .nothing => []
  | .key | .mark => [' ']

/-- What separates a block collection from what stands in front: its first line
goes on behind a mark. -/
def blockStart (indent : Nat) : Before → List Char
  | .nothing => []
  | .key => '\n' :: spaces indent
  | .mark => [' ']

/-- The column of a mapping inside a collection at the column `outer`. -/
def mappingColumn (outer : Nat) : Before → Nat
  | .nothing => outer
  | .key | .mark => outer + 2

/-- Behind a key the items of a sequence stand in the column of the key. -/
def sequenceColumn (outer : Nat) : Before → Nat
  | .nothing | .key => outer
  | .mark => outer + 2

end Before

mutual

def valueText (outer : Nat) (before : Before) : Value → List Char
  | .null => before.space ++ "null".toList
  | .bool value => before.space ++ (if value then "true" else "false").toList
  | .integer value => before.space ++ (toString value.toInt).toList
  | .float value => before.space ++ floatText value
  | .string text => before.space ++ stringText (outer + 2) text
  | .sequence [] => before.space ++ ['[', ']']
  | .mapping [] => before.space ++ ['{', '}']
  | .sequence items =>
    let column := before.sequenceColumn outer
    before.blockStart column ++ joinLines column (itemTexts column items)
  | .mapping entries =>
    let column := before.mappingColumn outer
    before.blockStart column ++ joinLines column (entryTexts column entries)

def itemTexts (column : Nat) : List Value → List (List Char)
  | [] => []
  | item :: rest => ('-' :: valueText column .mark item) :: itemTexts column rest

def entryTexts (column : Nat) : List (String × Value) → List (List Char)
  | [] => []
  | (key, value) :: rest =>
    let keyText := stringText (column + 2) key
    let text :=
      if isSimpleKey key then keyText ++ ':' :: valueText column .key value
      else '?' :: ' ' :: keyText ++ freshLine keyText ++ spaces column ++ ':' :: valueText column .mark value
    text :: entryTexts column rest

end

def print (value : Value) : String :=
  let text := valueText 0 .nothing value
  String.ofList (text ++ freshLine text)

end Overlay.Yaml
