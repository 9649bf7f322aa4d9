import Overlay.Yaml.Character

namespace Overlay.Yaml

/-- A place in a text: the characters that are left, the number of octets before
it, its line and its column. -/
structure Cursor where
  rest : List Char
  offset : Nat
  line : Nat
  column : Nat

namespace Cursor

def start (text : List Char) : Cursor := ⟨text, 0, 0, 0⟩

def advance (cursor : Cursor) : Nat → Cursor
  | 0 => cursor
  | count + 1 =>
    match cursor.rest with
    | [] => cursor
    | c :: rest =>
      if isBreak c ∧ ¬(c = '\r' ∧ rest.head? = some '\n') then
        advance ⟨rest, cursor.offset + c.utf8Size, cursor.line + 1, 0⟩ count
      else advance ⟨rest, cursor.offset + c.utf8Size, cursor.line, cursor.column + 1⟩ count

def skipWhile (cursor : Cursor) (inClass : Char → Bool) : Cursor :=
  cursor.advance (cursor.rest.takeWhile inClass).length

def skipBreak (cursor : Cursor) : Cursor :=
  match cursor.rest with
  | '\r' :: '\n' :: _ => cursor.advance 2
  | c :: _ => if isBreak c then cursor.advance 1 else cursor
  | [] => cursor

def skipLine (cursor : Cursor) : Cursor := cursor.skipWhile (!isBreak ·)

theorem rest_advance (cursor : Cursor) (count : Nat) : (cursor.advance count).rest = cursor.rest.drop count := by
  induction count generalizing cursor with
  | zero => simp [advance]
  | succ count ih =>
    rw [advance]
    cases whole : cursor.rest with
    | nil => simp [whole]
    | cons c rest => dsimp only; split <;> simp [ih]

end Cursor

end Overlay.Yaml
