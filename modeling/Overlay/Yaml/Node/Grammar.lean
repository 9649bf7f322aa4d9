import Overlay.Entries
import Overlay.Yaml.Fault
import Overlay.Yaml.Node

namespace Overlay.Yaml

/-- What the reading of a document keeps: the tokens left, the numbers of the
anchors by name, and the beginnings that tag handles stand for. -/
structure Reading where
  tokens : List Token
  anchors : Entries Nat
  handles : List (List Char × Octets)

abbrev Parser := StateT Reading (Except Fault)

namespace Parser

def fail {α : Type} (fault : Fault) : Parser α := throw fault

def peek : Parser (Option Token) := return (← get).tokens.head?

def skip : Parser Unit := modify fun reading => { reading with tokens := reading.tokens.tail }

def ahead (tokens : List Token) : Parser Bool := return (← peek).any tokens.contains

def accept (token : Token) : Parser Bool := do
  let found ← ahead [token]
  if found then skip
  return found

/-- Gives an anchor its number: how many names there were before. A name that is
used again changes its number. -/
def declareAnchor (name : String) : Parser Nat := do
  let reading ← get
  let number := reading.anchors.length
  set { reading with anchors := reading.anchors.insert name number }
  return number

def resolveTag (handle : List Char) (suffix : Octets) : Parser Octets := do
  if handle = [] then return suffix
  match (← get).handles.lookup handle with
  | some replacement => return replacement ++ suffix
  | none => fail .undefinedTagHandle

/-- An anchor and a tag, in either order; both may be missing. -/
def properties : Parser Properties := do
  match ← peek with
  | some (.anchor name) => do
    skip
    let anchor ← declareAnchor name
    match ← peek with
    | some (.tag handle suffix) => do
      skip
      return ⟨some anchor, some (← resolveTag handle suffix)⟩
    | _ => return ⟨some anchor, none⟩
  | some (.tag handle suffix) => do
    skip
    let tag ← resolveTag handle suffix
    match ← peek with
    | some (.anchor name) => do
      skip
      return ⟨some (← declareAnchor name), some tag⟩
    | _ => return ⟨none, some tag⟩
  | _ => return .none

/-- Where a node stands. Directly in a block mapping a sequence need not be
indented. -/
inductive Place where
  | block
  | blockEntry
  | flow
  deriving DecidableEq

/-- A node, or the empty one if one of the given tokens is next. -/
def unlessAhead (tokens : List Token) (node : Parser Node) : Parser Node := do
  if ← ahead tokens then return .empty else node

mutual

/-- Reads a node. The first argument of this and the following functions bounds
the depth of the calls. -/
def node : Nat → Place → Parser Node
  | 0, _ => fail .missingContent
  | steps + 1, place => do
    match ← peek with
    | some (.alias name) => do
      skip
      match (← get).anchors.get? name with
      | some anchor => return .alias anchor
      | none => fail .unknownAnchor
    | _ => do
      let properties ← properties
      match ← peek with
      | some (.scalar plain text) => do
        skip
        return .scalar properties plain text
      | some .flowSequenceStart => do
        skip
        return .sequence properties (← flowItems steps true)
      | some .flowMappingStart => do
        skip
        return .mapping properties (← flowEntries steps true)
      | some .blockSequenceStart => do
        if place = .flow then fail .missingContent
        skip
        return .sequence properties (← blockItems steps)
      | some .blockMappingStart => do
        if place = .flow then fail .missingContent
        skip
        return .mapping properties (← blockEntries steps)
      | token =>
        if token = some .blockEntry ∧ place = .blockEntry then
          return .sequence properties (← unindentedItems steps)
        else if properties = .none then fail .missingContent
        else return .scalar properties true ""

def blockItems : Nat → Parser (List Node)
  | 0 => fail .missingDash
  | steps + 1 => do
    if ← accept .blockEntry then
      let item ← unlessAhead [.blockEntry, .blockEnd] (node steps .block)
      return item :: (← blockItems steps)
    else if ← accept .blockEnd then return []
    else fail .missingDash

/-- The items of a block sequence that is indented as far as the mapping around
it. -/
def unindentedItems : Nat → Parser (List Node)
  | 0 => fail .missingDash
  | steps + 1 => do
    if ← accept .blockEntry then
      let item ← unlessAhead [.blockEntry, .key, .value, .blockEnd] (node steps .block)
      return item :: (← unindentedItems steps)
    else return []

def blockEntries : Nat → Parser (List (Node × Node))
  | 0 => fail .missingKey
  | steps + 1 => do
    if ← accept .key then
      let key ← unlessAhead [.key, .value, .blockEnd] (node steps .blockEntry)
      let value ←
        if ← accept .value then unlessAhead [.key, .value, .blockEnd] (node steps .blockEntry)
        else pure .empty
      return (key, value) :: (← blockEntries steps)
    else if ← accept .blockEnd then return []
    else fail .missingKey

/-- The items of a sequence in brackets. An item may be a single pair, which
makes a mapping of its own. -/
def flowItems : Nat → Bool → Parser (List Node)
  | 0, _ => fail .missingSeparator
  | steps + 1, first => do
    if ← accept .flowSequenceEnd then return []
    let separated ← accept .flowEntry
    if separated = first then fail (if first then .missingContent else .missingSeparator)
    if ← accept .flowSequenceEnd then return []
    else if ← accept .key then
      let pair ← flowPair steps
      return .mapping .none [pair] :: (← flowItems steps false)
    else
      let item ← node steps .flow
      return item :: (← flowItems steps false)

/-- A pair of a sequence in brackets. If its key is left out, the token in the
place of the key is dropped. -/
def flowPair : Nat → Parser (Node × Node)
  | 0 => fail .missingContent
  | steps + 1 => do
    let key ←
      if ← ahead [.value, .flowEntry, .flowSequenceEnd] then do
        skip
        pure .empty
      else node steps .flow
    let value ←
      if ← accept .value then unlessAhead [.flowEntry, .flowSequenceEnd] (node steps .flow)
      else pure .empty
    return (key, value)

/-- The entries of a mapping in braces. A key without a question mark and
without a value has the empty value. -/
def flowEntries : Nat → Bool → Parser (List (Node × Node))
  | 0, _ => fail .missingSeparator
  | steps + 1, first => do
    if ← accept .flowMappingEnd then return []
    let separated ← accept .flowEntry
    if separated = first then fail (if first then .missingContent else .missingSeparator)
    if ← accept .flowMappingEnd then return []
    else if ← accept .key then
      let key ← unlessAhead [.value, .flowEntry, .flowMappingEnd] (node steps .flow)
      let value ←
        if ← accept .value then unlessAhead [.flowEntry, .flowMappingEnd] (node steps .flow)
        else pure .empty
      return (key, value) :: (← flowEntries steps false)
    else
      let key ← node steps .flow
      return (key, .empty) :: (← flowEntries steps false)

end

end Parser

/-- The handles that every document knows. -/
def standardHandles : List (List Char × Octets) :=
  [(['!'], octetsOf ['!']), (['!', '!'], octetsOf "tag:yaml.org,2002:".toList)]

/-- Splits the directives off: the handles that they define, and the tokens that
follow. -/
def readDirectives (versionSeen : Bool) (handles : List (List Char × Octets)) :
    List Token → Except Fault (List (List Char × Octets) × List Token)
  | .versionDirective major minor :: rest =>
    if versionSeen then .error .repeatedDirective
    else if major = 1 ∧ (minor = 1 ∨ minor = 2) then readDirectives true handles rest
    else .error .incompatibleVersion
  | .tagDirective handle replacement :: rest =>
    if (handles.lookup handle).isSome then .error .repeatedDirective
    else readDirectives versionSeen ((handle, replacement) :: handles) rest
  | rest => .ok (handles, rest)

def Token.isDirective : Token → Bool
  | .versionDirective .. | .tagDirective .. => true
  | _ => false

/-- Whether the content of a document may be left out before this token. -/
def Token.endsContent (token : Token) : Bool :=
  token.isDirective || token == .documentStart || token == .documentEnd

def callBound (tokens : List Token) : Nat := 2 * tokens.length + 2

/-- Reads the only document of a text; nothing stands for a text without one. -/
def Node.ofTokens? (tokens : List Token) : Except Fault (Option Node) := do
  match tokens with
  | [] => return none
  | first :: _ =>
    let (node, reading) ←
      if first.isDirective ∨ first = .documentStart then do
        let (handles, rest) ← readDirectives false [] tokens
        match rest with
        | .documentStart :: content =>
          let start : Reading := ⟨content, [], handles ++ standardHandles⟩
          if content.head?.all Token.endsContent then pure (.empty, start)
          else (Parser.node (callBound content) .block).run start
        | _ => throw .missingDocumentStart
      else (Parser.node (callBound tokens) .block).run ⟨tokens, [], standardHandles⟩
    if reading.tokens.all (· == .documentEnd) then return some node
    throw .severalDocuments

end Overlay.Yaml
