import Overlay.Yaml.Character
import Overlay.Yaml.Resolution

namespace Overlay.Yaml

inductive ScalarStyle where
  | plain
  | singleQuoted
  | doubleQuoted
  | literal
  deriving DecidableEq, Repr

def isPrintable (c : Char) : Bool :=
  let n := c.toNat
  n == 0xA || (0x20 ≤ n && n ≤ 0x7E) || (0xA0 ≤ n && n ≤ 0xFFFD && n != 0xFEFF) || 0x10000 ≤ n

/-- Whether two characters with these properties stand side by side. -/
def adjacent (first second : Char → Bool) : List Char → Bool
  | a :: b :: rest => (first a && second b) || adjacent first second (b :: rest)
  | _ => false

/-- Whether a plain scalar that starts like this would be read as something
else. -/
def startsWithIndicator : List Char → Bool
  | [] => false
  | c :: rest =>
    ['#', ',', '[', ']', '{', '}', '&', '*', '!', '|', '>', '\'', '"', '%', '@', '\x60'].contains c ||
      (['?', ':', '-'].contains c && blankAhead rest)

/-- Whether a colon or a number sign inside the text would end a plain scalar.
-/
def hasInnerIndicator : List Char → Bool
  | a :: b :: rest =>
    (b == ':' && blankAhead rest) || (b == '#' && (isSpaceOrTab a || isBreak a)) || hasInnerIndicator (b :: rest)
  | _ => false

def startsWithMarker : List Char → Bool
  | '-' :: '-' :: '-' :: _ => true
  | '.' :: '.' :: '.' :: _ => true
  | _ => false

def isSpaceOrBreak (c : Char) : Bool := c == ' ' || isBreak c

namespace ScalarStyle

def plainAllowed (text : List Char) : Bool :=
  text.all (fun c => isPrintable c && !isBreak c) && text.head? != some ' ' && text.getLast? != some ' ' &&
    !startsWithMarker text && !startsWithIndicator text && !hasInnerIndicator text

def singleQuotedAllowed (text : List Char) : Bool :=
  text.all isPrintable && !adjacent (· == ' ') isBreak text && !adjacent isBreak (· == ' ') text

def literalAllowed (text : List Char) : Bool :=
  text.all isPrintable && !adjacent (· == ' ') isBreak text && text.getLast?.any (· != ' ')

/-- Whether a plain scalar with this text would not be read as the string it is,
or is a number with needless zeros. -/
def needsQuotes (text : String) : Bool := meaning text != .string || isPaddedNumber text.toList

/-- The style of a string: texts of several lines are literal, texts that look
like other scalars are quoted, others are plain; a style that cannot express the
text gives way to the next one. -/
def ofString (text : String) : ScalarStyle :=
  let chars := text.toList
  if chars.contains '\n' then if literalAllowed chars then .literal else .doubleQuoted
  else if !needsQuotes text && plainAllowed chars then .plain
  else if singleQuotedAllowed chars then .singleQuoted
  else .doubleQuoted

end ScalarStyle

end Overlay.Yaml
