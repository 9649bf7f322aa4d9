import Overlay.Yaml.Tag

namespace Overlay.Yaml

def decimalValue (digits : List Char) : Nat := digits.foldl (fun n c => 10 * n + (c.toNat - '0'.toNat)) 0

def readVersionNumber (cursor : Cursor) : Except Fault (Nat × Cursor) :=
  let digits := cursor.rest.takeWhile Char.isDigit
  if digits = [] ∨ 9 < digits.length then .error .malformedDirective
  else .ok (decimalValue digits, cursor.advance digits.length)

def readVersion (cursor : Cursor) : Except Fault (Token × Cursor) := do
  let (major, cursor) ← readVersionNumber (cursor.skipWhile isSpaceOrTab)
  if cursor.rest.head? ≠ some '.' then throw .malformedDirective
  let (minor, cursor) ← readVersionNumber (cursor.advance 1)
  return (.versionDirective major minor, cursor)

def readTagDirective (cursor : Cursor) : Except Fault (Token × Cursor) := do
  let cursor := cursor.skipWhile isSpaceOrTab
  let handle := readHandle cursor.rest
  if ¬(handle = ['!'] ∨ isClosedHandle handle) then throw .malformedDirective
  let cursor := cursor.advance handle.length
  if ¬(cursor.rest.head?.any isSpaceOrTab) then throw .malformedDirective
  let cursor := cursor.skipWhile isSpaceOrTab
  let (octets, consumed) ← readTagChars true 0 cursor.rest
  let cursor := cursor.advance consumed
  if octets = [] ∨ ¬blankAhead cursor.rest then throw .malformedDirective
  return (.tagDirective handle octets.untilZero, cursor)

def readDirective (start : Cursor) : Except Fault (Token × Cursor) := do
  let start := start.advance 1
  let name := start.rest.takeWhile isWordChar
  let cursor := start.advance name.length
  if name = [] ∨ ¬blankAhead cursor.rest then throw .malformedDirective
  let (token, cursor) ←
    if name = ['Y', 'A', 'M', 'L'] then readVersion cursor
    else if name = ['T', 'A', 'G'] then readTagDirective cursor
    else throw .unknownDirective
  let cursor := cursor.skipWhile isSpaceOrTab
  let cursor := if cursor.rest.head? = some '#' then cursor.skipLine else cursor
  if ¬(cursor.rest.head?.all isBreak) then throw .malformedDirective
  return (token, cursor.skipBreak)

end Overlay.Yaml
