import Overlay.Yaml.Lexer
import Overlay.Yaml.Node.Grammar
import Overlay.Yaml.Resolution
import Overlay.Yaml.Tree

namespace Overlay.Yaml

inductive TagMeaning where
  | bool
  | integer
  | float
  | null
  | local_ (name : String)
  | plain
  | foreign

/-- The text without an exclamation mark at its start; a lone one stays. -/
def withoutBang (text : String) : String :=
  match text.toList with
  | '!' :: c :: rest => String.ofList (c :: rest)
  | _ => text

/-- A tag that starts with an exclamation mark is local; if it is no text, it
does not count. -/
def TagMeaning.ofOctets (octets : Octets) : TagMeaning :=
  if octets = octetsOf "tag:yaml.org,2002:bool".toList then .bool
  else if octets = octetsOf "tag:yaml.org,2002:int".toList then .integer
  else if octets = octetsOf "tag:yaml.org,2002:float".toList then .float
  else if octets = octetsOf "tag:yaml.org,2002:null".toList then .null
  else if octets.head? = some (UInt8.ofNat '!'.toNat) then
    match String.fromUTF8? ⟨octets.toArray⟩ with
    | some text => .local_ (withoutBang (withoutBang text))
    | none => .plain
  else .foreign

/-- Integers of more than 64 bits are refused. -/
def Tree.ofInteger (value : Int) : Except Fault Tree :=
  if -0x8000000000000000 ≤ value ∧ value < 0x10000000000000000 then .ok (.integer value) else .error .integerTooLarge

def Tree.ofText (plain : Bool) (text : String) : Except Fault Tree :=
  if plain then
    match meaning text with
    | .null => .ok .null
    | .bool value => .ok (.bool value)
    | .integer value => Tree.ofInteger value
    | .float value => .ok (.float value)
    | .string => .ok (.string text)
  else .ok (.string text)

/-- The tree of a scalar. The tags of the core types ask for content of their
form, however it is quoted; any other tag that is not local makes a string. -/
def Tree.ofScalar (tag : Option Octets) (plain : Bool) (text : String) : Except Fault Tree :=
  match tag.map TagMeaning.ofOctets with
  | none | some .plain => Tree.ofText plain text
  | some (.local_ name) => (Tree.ofText plain text).map (.tagged name)
  | some .bool =>
    match bool? text.toList with
    | some value => .ok (.bool value)
    | none => .error .contentUnlikeTag
  | some .integer =>
    match integer? text.toList with
    | some value => Tree.ofInteger value
    | none => .error .contentUnlikeTag
  | some .float =>
    match float? text.toList with
    | some value => .ok (.float value)
    | none => .error .contentUnlikeTag
  | some .null => if nullWords.contains text then .ok .null else .error .contentUnlikeTag
  | some .foreign => .ok (.string text)

/-- Of the tags of a collection only a local one counts. -/
def Tree.withTag (tag : Option Octets) (tree : Tree) : Tree :=
  match tag.map TagMeaning.ofOctets with
  | some (.local_ name) => .tagged name tree
  | _ => tree

/-- What composition needs to know of the document: the nodes that aliases stand
for, and how many aliases may be followed. -/
structure Anchors where
  nodes : List (Nat × Node)
  limit : Nat

/-- Of several nodes with one number the last one counts. -/
def Anchors.ofNode (node : Node) : Anchors := ⟨node.anchored.reverse, 100 * node.size⟩

abbrev Composer := StateT Nat (Except Fault)

/-- Follows an alias; any other node stands for itself. -/
def Anchors.follow (anchors : Anchors) : Node → Composer Node
  | .alias anchor => do
    let followed := (← get) + 1
    if anchors.limit < followed then throw .tooManyAliases
    set followed
    match anchors.nodes.lookup anchor with
    | some node => return node
    | none => throw .unknownAnchor
  | node => return node

def composeEntries (compose : Node → Composer Tree) (earlier : List (Tree × Tree)) :
    List (Node × Node) → Composer (List (Tree × Tree))
  | [] => return earlier
  | (key, value) :: rest => do
    let key ← compose key
    if Tree.hasKey earlier key then throw .repeatedKey
    let value ← compose value
    composeEntries compose (earlier ++ [(key, value)]) rest

/-- The tree of a node that is no alias. What a collection holds is composed by
`inner`; without it collections are nested too deeply. -/
def composeContent (inner : Option (Node → Composer Tree)) : Node → Composer Tree
  | .alias _ => throw .unknownAnchor
  | .scalar properties plain text =>
    match Tree.ofScalar properties.tag plain text with
    | .ok tree => return tree
    | .error fault => throw fault
  | .sequence properties items =>
    match inner with
    | none => throw .tooDeep
    | some compose => do
      let items ← items.mapM compose
      return .withTag properties.tag (.sequence items)
  | .mapping properties entries =>
    match inner with
    | none => throw .tooDeep
    | some compose => do
      let entries ← composeEntries compose [] entries
      return .withTag properties.tag (.mapping entries)

/-- The tree of a node in which at most `depth` collections are nested. -/
def composeNode (anchors : Anchors) : Nat → Node → Composer Tree
  | 0, node => do composeContent none (← anchors.follow node)
  | depth + 1, node => do composeContent (some (composeNode anchors depth)) (← anchors.follow node)

def depthLimit : Nat := 128

/-- Reads the only document of a text, whose merge keys stay as they are; a text
without document is null. -/
def Tree.read (text : String) : Except Fault Tree := do
  let tokens ← Token.ofText text.toList
  match ← Node.ofTokens? tokens with
  | none => return .null
  | some node =>
    let (tree, _) ← (composeNode (.ofNode node) depthLimit node).run 0
    return tree

end Overlay.Yaml
