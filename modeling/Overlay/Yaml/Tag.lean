import Overlay.Yaml.Cursor
import Overlay.Yaml.Scalar.Quoted
import Overlay.Yaml.Token

namespace Overlay.Yaml

/-- The characters of a tag other than the percent sign; those of the second
list only where no bracket can end the tag. -/
def isTagChar (bracketsAllowed : Bool) (c : Char) : Bool :=
  isWordChar c ||
    [';', '/', '?', ':', '@', '&', '=', '+', '$', '.', '!', '~', '*', '\'', '(', ')'].contains c ||
    (bracketsAllowed && [',', '[', ']'].contains c)

/-- The number of octets that follow the first octet of a character. -/
def continuationCount? (octet : Nat) : Option Nat :=
  if octet < 0x80 then some 0
  else if 0xC0 ≤ octet ∧ octet < 0xE0 then some 1
  else if 0xE0 ≤ octet ∧ octet < 0xF0 then some 2
  else if 0xF0 ≤ octet ∧ octet < 0xF8 then some 3
  else none

/-- Reads the characters of a tag, and the escapes that write one octet by a
percent sign and two hexadecimal digits. `pending` octets are still to come for
the last character. -/
def readTagChars (bracketsAllowed : Bool) (pending : Nat) : List Char → Except Fault (Octets × Nat)
  | [] => if pending = 0 then .ok ([], 0) else .error .malformedTag
  | c :: rest =>
    if c = '%' then
      match rest with
      | high :: low :: rest =>
        match hexDigit? high, hexDigit? low with
        | some high, some low =>
          let octet := 16 * high + low
          let after? :=
            if pending = 0 then continuationCount? octet
            else if 0x80 ≤ octet ∧ octet < 0xC0 then some (pending - 1)
            else none
          match after? with
          | none => .error .malformedTag
          | some pending => do
            let (octets, consumed) ← readTagChars bracketsAllowed pending rest
            return (UInt8.ofNat octet :: octets, consumed + 3)
        | _, _ => .error .malformedTag
      | _ => .error .malformedTag
    else if pending ≠ 0 then .error .malformedTag
    else if isTagChar bracketsAllowed c then do
      let (octets, consumed) ← readTagChars bracketsAllowed 0 rest
      return (UInt8.ofNat c.toNat :: octets, consumed + 1)
    else .ok ([], 0)

/-- An exclamation mark, word characters, and a second exclamation mark if there
is one. -/
def readHandle (text : List Char) : List Char :=
  match text with
  | '!' :: rest =>
    let word := rest.takeWhile isWordChar
    let closing := if (rest.drop word.length).head? = some '!' then ['!'] else []
    '!' :: word ++ closing
  | _ => []

def isClosedHandle (handle : List Char) : Bool := 2 ≤ handle.length && handle.getLast? == some '!'

def Octets.untilZero (octets : Octets) : Octets := octets.takeWhile (· ≠ 0)

/-- Reads a tag: one in angle brackets, a handle with a suffix, or a suffix
alone. The tag of a lone exclamation mark has no handle. -/
def readTag (flow : Bool) (start : Cursor) : Except Fault (Token × Cursor) := do
  let (tag, stop) ← match start.rest with
    | '!' :: '<' :: rest => do
      let (octets, consumed) ← readTagChars true 0 rest
      let stop := start.advance (2 + consumed)
      if octets = [] ∨ stop.rest.head? ≠ some '>' then throw .malformedTag
      pure (Token.tag [] octets.untilZero, stop.advance 1)
    | text => do
      let handle := readHandle text
      if isClosedHandle handle then
        let (octets, consumed) ← readTagChars false 0 (text.drop handle.length)
        if octets = [] then throw .malformedTag
        pure (Token.tag handle octets.untilZero, start.advance (handle.length + consumed))
      else
        let (octets, consumed) ← readTagChars false 0 (text.drop 1)
        let suffix := octets.untilZero
        let tag := if suffix = [] then Token.tag [] (octetsOf ['!']) else Token.tag ['!'] suffix
        pure (tag, start.advance (1 + consumed))
  if blankAhead stop.rest ∨ (flow ∧ stop.rest.head? = some ',') then return (tag, stop)
  throw .malformedTag

end Overlay.Yaml
