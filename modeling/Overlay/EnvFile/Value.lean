import Overlay.Text.Alphanumeric

namespace Overlay.EnvFile

/-- Where the reading of a value stands. A reference remembers whether it stands
between double quotes, and the letters of its name, the last one first. -/
inductive ValueState where
  | bare
  | double
  | single
  | escape (quoted : Bool)
  | name (quoted : Bool) (letters : List Char)
  | bracedName (quoted : Bool) (letters : List Char)
  | spaceAfter
  | commentAfter
  deriving DecidableEq, Repr

namespace ValueState

def resume (quoted : Bool) : ValueState := if quoted then .double else .bare

end ValueState

def unescape? (c : Char) : Option Char :=
  if c = '\\' ∨ c = '\'' ∨ c = '"' ∨ c = '$' ∨ c = ' ' then some c
  else if c = 'n' then some '\n'
  else none

def valueOf (lookup : String → String) (letters : List Char) : List Char :=
  (lookup (String.ofList letters.reverse)).toList

/-- The state behind a character and the text that it adds; nothing if it must
not stand there. The character that ends a name without braces is copied, unless
it starts another name. -/
def ValueState.next? (lookup : String → String) (c : Char) : ValueState → Option (ValueState × List Char)
  | .bare =>
    if c = '$' then some (.name false [], [])
    else if c = '\'' then some (.single, [])
    else if c = '"' then some (.double, [])
    else if c = '\\' then some (.escape false, [])
    else if c = ' ' ∨ c = '\t' then some (.spaceAfter, [])
    else some (.bare, [c])
  | .double =>
    if c = '$' then some (.name true [], [])
    else if c = '"' then some (.bare, [])
    else if c = '\\' then some (.escape true, [])
    else some (.double, [c])
  | .single => if c = '\'' then some (.bare, []) else some (.single, [c])
  | .escape quoted => (unescape? c).map fun meant => (resume quoted, [meant])
  | .name quoted letters =>
    if isAlphanumeric c then some (.name quoted (c :: letters), [])
    else if c = '{' ∧ letters = [] then some (.bracedName quoted [], [])
    else if c = '$' then some (.name quoted [], valueOf lookup letters)
    else some (resume quoted, valueOf lookup letters ++ [c])
  | .bracedName quoted letters =>
    if c = '}' then some (resume quoted, valueOf lookup letters)
    else some (.bracedName quoted (c :: letters), [])
  | .spaceAfter =>
    if c = ' ' ∨ c = '\t' then some (.spaceAfter, [])
    else if c = '#' then some (.commentAfter, [])
    else none
  | .commentAfter => some (.commentAfter, [])

/-- The text that the end of a value adds; nothing if quotes or braces are still
open. -/
def ValueState.finish? (lookup : String → String) : ValueState → Option (List Char)
  | .double | .single | .bracedName .. | .escape true | .name true _ => none
  | .name false letters => some (valueOf lookup letters)
  | .bare | .escape false | .spaceAfter | .commentAfter => some []

/-- Reads a value: quoted and bare parts, escapes, and references to variables.
-/
def readValue? (lookup : String → String) (state : ValueState) : List Char → Option (List Char)
  | [] => state.finish? lookup
  | c :: rest =>
    match state.next? lookup c with
    | none => none
    | some (next, added) => (readValue? lookup next rest).map (added ++ ·)

end Overlay.EnvFile
