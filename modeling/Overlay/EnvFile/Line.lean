import Overlay.Text.Blank

namespace Overlay.EnvFile

/-- Where the reading of an entry stands: quotes hold several lines together,
and a number sign starts a comment directly behind a blank only. -/
inductive LineState where
  | plain
  | blank
  | escape
  | single
  | singleEscape
  | double
  | doubleEscape
  | comment
  deriving DecidableEq, Repr

namespace LineState

def next (state : LineState) (c : Char) : LineState :=
  match state with
  | .plain =>
    if isBlank c ∧ c ≠ '\n' ∧ c ≠ '\r' then .blank
    else if c = '\\' then .escape
    else if c = '"' then .double
    else if c = '\'' then .single
    else .plain
  | .blank =>
    if c = '#' then .comment
    else if c = '\\' then .escape
    else if c = '"' then .double
    else if c = '\'' then .single
    else .plain
  | .escape => .plain
  | .single => if c = '\\' then .singleEscape else if c = '\'' then .plain else .single
  | .singleEscape => .single
  | .double => if c = '\\' then .doubleEscape else if c = '"' then .plain else .double
  | .doubleEscape => .double
  | .comment => .comment

end LineState

/-- The part of a line that is not a comment, and the state at its end. -/
def scanLine (state : LineState) : List Char → List Char × LineState
  | [] => ([], state)
  | c :: rest =>
    match state.next c with
    | .comment => ([], .comment)
    | next =>
      let (kept, last) := scanLine next rest
      (c :: kept, last)

def withoutLineEnd (text : List Char) : List Char :=
  match text.reverse with
  | '\n' :: '\r' :: rest => rest.reverse
  | '\n' :: rest => rest.reverse
  | _ => text

/-- Joins the lines of each entry. Nothing stands for an entry that cannot be
read: a line that is no text, or an entry that is still open at the end. A line
that starts with a number sign gives an empty entry. -/
def entriesFrom (entry : List Char) (state : LineState) :
    List (Option (List Char)) → List (Option (List Char))
  | [] => if state = .plain then [] else [none]
  | none :: lines => none :: entriesFrom [] .plain lines
  | some line :: lines =>
    let whole := entry ++ line
    if (Text.trimStart whole).head? = some '#' then some [] :: entriesFrom [] .plain lines
    else
      match scanLine state line with
      | (_, .plain) => some (withoutLineEnd whole) :: entriesFrom [] .plain lines
      | (kept, .comment) => some (entry ++ kept) :: entriesFrom [] .plain lines
      | (_, open_) => entriesFrom whole open_ lines

def splitBytes : List UInt8 → List (List UInt8)
  | [] => []
  | byte :: rest =>
    if byte = 10 then [byte] :: splitBytes rest
    else
      match splitBytes rest with
      | [] => [[byte]]
      | line :: lines => (byte :: line) :: lines

/-- The lines of a file, each with its line end; nothing stands for one that is
not UTF-8. -/
def lines (content : ByteArray) : List (Option (List Char)) :=
  (splitBytes content.toList).map fun line => (String.fromUTF8? ⟨line.toArray⟩).map String.toList

end Overlay.EnvFile
