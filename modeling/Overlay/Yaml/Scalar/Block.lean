import Overlay.Yaml.Cursor
import Overlay.Yaml.Scalar.Plain

namespace Overlay.Yaml

inductive Chomping where
  | strip
  | clip
  | keep
  deriving DecidableEq

structure BlockHeader where
  chomping : Chomping
  indent : Option Nat

def chomping? : Char → Option Chomping
  | '+' => some .keep
  | '-' => some .strip
  | _ => none

def indentDigit? (c : Char) : Except Fault (Option Nat) :=
  if c = '0' then .error .malformedBlockHeader
  else if c.isDigit then .ok (some (c.toNat - '0'.toNat))
  else .ok none

/-- Reads the indicators behind the one that opens the scalar, in either order,
and counts them. -/
def readBlockHeader : List Char → Except Fault (BlockHeader × Nat)
  | [] => .ok (⟨.clip, none⟩, 0)
  | c :: rest =>
    match chomping? c with
    | some chomping => do
      match rest with
      | [] => return (⟨chomping, none⟩, 1)
      | d :: _ =>
        match ← indentDigit? d with
        | none => return (⟨chomping, none⟩, 1)
        | some indent => return (⟨chomping, some indent⟩, 2)
    | none => do
      match ← indentDigit? c with
      | none => return (⟨.clip, none⟩, 0)
      | some indent =>
        match rest.head?.bind chomping? with
        | none => return (⟨.clip, some indent⟩, 1)
        | some chomping => return (⟨chomping, some indent⟩, 2)

/-- The greatest column reached by the spaces of the leading blank lines and of
the first line with text. -/
def leadingColumn (column widest : Nat) : List Char → Except Fault Nat
  | [] => .ok (max column widest)
  | c :: rest =>
    if c = ' ' then leadingColumn (column + 1) widest rest
    else if c = '\t' then .error .tabInIndentation
    else if isBreak c then leadingColumn 0 (max column widest) rest
    else .ok (max column widest)

structure BlockTail where
  lineBreak : List Char
  blankLines : List Char
  startsBlank : Bool

inductive BlockState where
  | margin (column : Nat) (tail : BlockTail)
  | line (startsBlank : Bool)

/-- The text between two lines of a block scalar. In a folded one a single line
break between lines that do not start with a blank becomes a space. -/
def BlockTail.join (tail : BlockTail) (folded : Bool) (next : Char) : List Char :=
  if folded ∧ tail.lineBreak = ['\n'] ∧ ¬tail.startsBlank ∧ ¬isSpaceOrTab next then
    (if tail.blankLines = [] then [' '] else []) ++ tail.blankLines
  else tail.lineBreak ++ tail.blankLines

def BlockTail.chomp (tail : BlockTail) : Chomping → List Char
  | .strip => []
  | .clip => tail.lineBreak
  | .keep => tail.lineBreak ++ tail.blankLines

/-- Reads the lines of a block scalar, which are indented by `indent`. -/
def readBlock (folded : Bool) (chomping : Chomping) (indent : Nat) (state : BlockState) :
    List Char → Except Fault ScalarText
  | [] =>
    match state with
    | .margin _ tail => .ok ⟨tail.chomp chomping, 0, false⟩
    | .line _ => .ok ⟨[], 0, false⟩
  | c :: rest =>
    match state with
    | .margin column tail =>
      if c = ' ' ∧ column < indent then
        (readBlock folded chomping indent (.margin (column + 1) tail) rest).map ScalarText.pass
      else if c = '\t' ∧ column < indent then .error .tabInIndentation
      else if c = '\r' ∧ rest.head? = some '\n' then
        (readBlock folded chomping indent state rest).map ScalarText.pass
      else if isBreak c then
        let tail := { tail with blankLines := tail.blankLines ++ [normalBreak c] }
        (readBlock folded chomping indent (.margin 0 tail) rest).map ScalarText.pass
      else if column = indent then
        (readBlock folded chomping indent (.line (isSpaceOrTab c)) rest).map
          (ScalarText.push (tail.join folded c ++ [c]))
      else .ok ⟨tail.chomp chomping, 0, false⟩
    | .line startsBlank =>
      if c = '\r' ∧ rest.head? = some '\n' then
        (readBlock folded chomping indent state rest).map ScalarText.pass
      else if isBreak c then
        (readBlock folded chomping indent (.margin 0 ⟨[normalBreak c], [], startsBlank⟩) rest).map ScalarText.pass
      else (readBlock folded chomping indent state rest).map (ScalarText.push [c])

/-- Reads a block scalar behind the character that opens it, inside a collection
indented by `parent`, if any. -/
def readBlockScalar (folded : Bool) (parent : Option Nat) (text : List Char) : Except Fault ScalarText := do
  let (header, indicators) ← readBlockHeader text
  let cursor := ((Cursor.start text).advance indicators).skipWhile isSpaceOrTab
  let cursor := if cursor.rest.head? = some '#' then cursor.skipLine else cursor
  if ¬(cursor.rest.head?.all isBreak) then throw .malformedBlockHeader
  let cursor := cursor.skipBreak
  let indent ← match header.indent with
    | some indent => pure (parent.getD 0 + indent)
    | none => do
      let widest ← leadingColumn 0 0 cursor.rest
      pure (max (max widest 1) (parent.elim 0 (· + 1)))
  let content ← readBlock folded header.chomping indent (.margin 0 ⟨[], [], false⟩) cursor.rest
  return { content with consumed := text.length - cursor.rest.length + content.consumed }

end Overlay.Yaml
