import Overlay.Yaml.Directive
import Overlay.Yaml.Scalar.Block

namespace Overlay.Yaml

/-- A token that turns out to be a mapping key if a colon follows: its number,
where it starts, and whether the colon must follow. -/
structure KeyCandidate where
  number : Nat
  offset : Nat
  line : Nat
  column : Nat
  required : Bool

/-- The state of a lexer. The tokens are kept in reverse. There is one candidate
per open bracket and one for the text outside of all brackets, the innermost
first. -/
structure Lexer where
  cursor : Cursor
  tokens : List Token
  count : Nat
  indents : List Nat
  candidate : Option KeyCandidate
  outer : List (Option KeyCandidate)
  keyAllowed : Bool

namespace Lexer

def start (text : List Char) : Lexer := ⟨.start text, [], 0, [], none, [], true⟩

def inFlow (lexer : Lexer) : Bool := !lexer.outer.isEmpty

def emit (lexer : Lexer) (token : Token) : Lexer :=
  { lexer with tokens := token :: lexer.tokens, count := lexer.count + 1 }

def insertAt (lexer : Lexer) (number : Nat) (token : Token) : Lexer :=
  { lexer with tokens := lexer.tokens.insertIdx (lexer.count - number) token, count := lexer.count + 1 }

def moveTo (lexer : Lexer) (cursor : Cursor) : Lexer := { lexer with cursor }

def advance (lexer : Lexer) (count : Nat) : Lexer := lexer.moveTo (lexer.cursor.advance count)

def allowKey (lexer : Lexer) (allowed : Bool) : Lexer := { lexer with keyAllowed := allowed }

/-- Closes the block collections that are indented further than all columns that
satisfy the test. -/
def closeBlocks (lexer : Lexer) (deeper : Nat → Bool) : Lexer :=
  if lexer.inFlow then lexer
  else
    let closed := lexer.indents.takeWhile deeper
    { closed.foldl (fun lexer _ => lexer.emit .blockEnd) lexer with indents := lexer.indents.drop closed.length }

/-- Opens a block collection if the column is further in than the current one.
-/
def openBlock (lexer : Lexer) (column number : Nat) (token : Token) : Lexer :=
  if lexer.inFlow ∨ lexer.indents.head?.any (column ≤ ·) then lexer
  else { lexer.insertAt number token with indents := column :: lexer.indents }

/-- A key is given up when its line is left or after 1024 octets. -/
def outdated (cursor : Cursor) (key : KeyCandidate) : Bool :=
  key.line < cursor.line || key.offset + 1024 < cursor.offset

def dropOutdated (cursor : Cursor) : Option KeyCandidate → Except Fault (Option KeyCandidate)
  | none => .ok none
  | some key =>
    if outdated cursor key then if key.required then .error .missingColon else .ok none
    else .ok (some key)

def dropOutdatedKeys (lexer : Lexer) : Except Fault Lexer := do
  let candidate ← dropOutdated lexer.cursor lexer.candidate
  let outer ← lexer.outer.mapM (dropOutdated lexer.cursor)
  return { lexer with candidate, outer }

/-- Gives up the innermost key, which no colon can follow any more. -/
def dropKey (lexer : Lexer) : Except Fault Lexer :=
  if lexer.candidate.any KeyCandidate.required then .error .missingColon
  else .ok { lexer with candidate := none }

def saveKey (lexer : Lexer) : Except Fault Lexer :=
  if lexer.keyAllowed then do
    let lexer ← lexer.dropKey
    let place := lexer.cursor
    let required := !lexer.inFlow && lexer.indents.head? == some place.column
    return { lexer with candidate := some ⟨lexer.count, place.offset, place.line, place.column, required⟩ }
  else .ok lexer

/-- Passes over spaces, comments and line ends; `steps` bounds the number of
lines. A line may start with a byte order mark. Outside of brackets a tab may
not stand where a key can start, and a new line lets a key start. -/
def skipToToken (lexer : Lexer) : Nat → Lexer
  | 0 => lexer
  | steps + 1 =>
    let cursor := lexer.cursor
    let cursor := if cursor.column = 0 ∧ cursor.rest.head? = some '\uFEFF' then cursor.advance 1 else cursor
    let tabs := lexer.inFlow || !lexer.keyAllowed
    let cursor := cursor.skipWhile fun c => c == ' ' || (tabs && c == '\t')
    let cursor := if cursor.rest.head? = some '#' then cursor.skipLine else cursor
    if cursor.rest.head?.any isBreak then
      skipToToken { lexer with cursor := cursor.skipBreak, keyAllowed := lexer.keyAllowed || !lexer.inFlow } steps
    else lexer.moveTo cursor

/-- A directive or a document marker ends all collections. -/
def endBlocks (lexer : Lexer) : Except Fault Lexer := do
  let lexer ← (lexer.closeBlocks fun _ => true).dropKey
  return lexer.allowKey false

def readDirective (lexer : Lexer) : Except Fault Lexer := do
  let lexer ← lexer.endBlocks
  let (token, cursor) ← Yaml.readDirective lexer.cursor
  return (lexer.emit token).moveTo cursor

def readMarker (lexer : Lexer) (token : Token) : Except Fault Lexer := do
  let lexer ← lexer.endBlocks
  return (lexer.emit token).advance 3

def openBracket (lexer : Lexer) (token : Token) : Except Fault Lexer := do
  let lexer ← lexer.saveKey
  let lexer := { lexer with outer := lexer.candidate :: lexer.outer, candidate := none, keyAllowed := true }
  return (lexer.emit token).advance 1

def closeBracket (lexer : Lexer) (token : Token) : Except Fault Lexer := do
  let lexer ← lexer.dropKey
  let lexer := match lexer.outer with
    | candidate :: outer => { lexer with candidate, outer }
    | [] => lexer
  return ((lexer.allowKey false).emit token).advance 1

def readFlowEntry (lexer : Lexer) : Except Fault Lexer := do
  let lexer ← lexer.dropKey
  return ((lexer.allowKey true).emit .flowEntry).advance 1

def readBlockEntry (lexer : Lexer) : Except Fault Lexer := do
  if ¬lexer.inFlow ∧ ¬lexer.keyAllowed then throw .misplacedEntry
  let lexer ← (lexer.openBlock lexer.cursor.column lexer.count .blockSequenceStart).dropKey
  return ((lexer.allowKey true).emit .blockEntry).advance 1

def readKey (lexer : Lexer) : Except Fault Lexer := do
  if ¬lexer.inFlow ∧ ¬lexer.keyAllowed then throw .misplacedKey
  let lexer ← (lexer.openBlock lexer.cursor.column lexer.count .blockMappingStart).dropKey
  return ((lexer.allowKey (!lexer.inFlow)).emit .key).advance 1

/-- A colon makes a key of the candidate, if there is one. -/
def readValue (lexer : Lexer) : Except Fault Lexer := do
  let lexer ← match lexer.candidate with
    | some key =>
      let lexer := (lexer.insertAt key.number .key).openBlock key.column key.number .blockMappingStart
      pure { lexer with candidate := none, keyAllowed := false }
    | none =>
      if ¬lexer.inFlow ∧ ¬lexer.keyAllowed then throw .misplacedValue
      else
        let lexer := lexer.openBlock lexer.cursor.column lexer.count .blockMappingStart
        pure (lexer.allowKey (!lexer.inFlow))
  return (lexer.emit .value).advance 1

/-- Whether the character behind the name of an anchor or alias may stand there.
-/
def endsAnchor (rest : List Char) : Bool :=
  blankAhead rest || rest.head?.any ['?', ':', ',', ']', '}', '%', '@', '\x60'].contains

def readAnchor (lexer : Lexer) (token : String → Token) : Except Fault Lexer := do
  let lexer := (← lexer.saveKey).allowKey false
  let cursor := lexer.cursor.advance 1
  let name := cursor.rest.takeWhile isWordChar
  let cursor := cursor.advance name.length
  if name = [] ∨ ¬endsAnchor cursor.rest then throw .malformedAnchor
  return (lexer.emit (token (String.ofList name))).moveTo cursor

def readTag (lexer : Lexer) : Except Fault Lexer := do
  let lexer := (← lexer.saveKey).allowKey false
  let (token, cursor) ← Yaml.readTag lexer.inFlow lexer.cursor
  return (lexer.emit token).moveTo cursor

def readBlockScalar (lexer : Lexer) (folded : Bool) : Except Fault Lexer := do
  let lexer := (← lexer.dropKey).allowKey true
  let lexer := lexer.advance 1
  let scalar ← Yaml.readBlockScalar folded lexer.indents.head? lexer.cursor.rest
  return (lexer.emit (.scalar false (String.ofList scalar.text))).advance scalar.consumed

def readQuoted (lexer : Lexer) (read : Nat → List Char → Except Fault ScalarText) : Except Fault Lexer := do
  let lexer := (← lexer.saveKey).allowKey false
  let lexer := lexer.advance 1
  let scalar ← read lexer.cursor.column lexer.cursor.rest
  return (lexer.emit (.scalar false (String.ofList scalar.text))).advance scalar.consumed

def readPlain (lexer : Lexer) : Except Fault Lexer := do
  let lexer := (← lexer.saveKey).allowKey false
  let cursor := lexer.cursor
  let indent := lexer.indents.head?.elim 0 (· + 1)
  let scalar ← Yaml.readPlain lexer.inFlow indent cursor.column true [] [] cursor.rest
  return ((lexer.allowKey scalar.endsLine).emit (.scalar true (String.ofList scalar.text))).advance scalar.consumed

/-- The characters that start no plain scalar by themselves. -/
def isIndicator (c : Char) : Bool :=
  ['-', '?', ':', ',', '[', ']', '{', '}', '#', '&', '*', '!', '|', '>', '\'', '"', '%', '@', '\x60'].contains c

/-- Reads the token at the cursor, which stands before the character `c`. -/
def readToken (lexer : Lexer) (c : Char) (rest : List Char) : Except Fault Lexer :=
  let column := lexer.cursor.column
  let flow := lexer.inFlow
  if column = 0 ∧ c = '%' then lexer.readDirective
  else if column = 0 ∧ markerAhead (c :: rest) then
    lexer.readMarker (if c = '-' then .documentStart else .documentEnd)
  else if c = '[' then lexer.openBracket .flowSequenceStart
  else if c = '{' then lexer.openBracket .flowMappingStart
  else if c = ']' then lexer.closeBracket .flowSequenceEnd
  else if c = '}' then lexer.closeBracket .flowMappingEnd
  else if c = ',' then lexer.readFlowEntry
  else if c = '-' ∧ blankAhead rest then lexer.readBlockEntry
  else if c = '?' ∧ (flow ∨ blankAhead rest) then lexer.readKey
  else if c = ':' ∧ (flow ∨ blankAhead rest) then lexer.readValue
  else if c = '*' then lexer.readAnchor .alias
  else if c = '&' then lexer.readAnchor .anchor
  else if c = '!' then lexer.readTag
  else if c = '|' ∧ ¬flow then lexer.readBlockScalar false
  else if c = '>' ∧ ¬flow then lexer.readBlockScalar true
  else if c = '\'' then lexer.readQuoted fun column => readSingle column (.blanks [])
  else if c = '"' then lexer.readQuoted fun column => readDouble column (.content (.blanks []))
  else if ¬(isSpaceOrTab c ∨ isBreak c ∨ isIndicator c) ∨ c = '-' ∨ (¬flow ∧ (c = '?' ∨ c = ':')) then
    lexer.readPlain
  else .error .unexpectedCharacter

/-- Reads all tokens that are left; each step reads one, and so consumes at
least one character. -/
def run (lexer : Lexer) : Nat → Except Fault (List Token)
  | 0 => .error .unexpectedCharacter
  | steps + 1 => do
    let lexer ← (lexer.skipToToken (lexer.cursor.rest.length + 1)).dropOutdatedKeys
    let column := lexer.cursor.column
    let lexer := lexer.closeBlocks (column < ·)
    match lexer.cursor.rest with
    | [] => do
      let lexer ← lexer.endBlocks
      return lexer.tokens.reverse
    | c :: rest => do
      let lexer ← lexer.readToken c rest
      lexer.run steps

end Lexer

def Token.ofText (text : List Char) : Except Fault (List Token) :=
  if text.all isAllowed then (Lexer.start text).run (text.length + 1) else .error .forbiddenCharacter

end Overlay.Yaml
