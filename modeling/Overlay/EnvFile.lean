import Overlay.Assignment
import Overlay.Entries
import Overlay.EnvFile.Line
import Overlay.EnvFile.Value
import Overlay.Placeholder

namespace Overlay.EnvFile

inductive Entry where
  | empty
  | malformed
  | set (assignment : Assignment)
  deriving DecidableEq, Repr

def isNameStart (c : Char) : Bool := c.isAlpha || c == '_'

def isNameChar (c : Char) : Bool := c.isAlphanum || c == '_' || c == '.'

/-- A name of ASCII letters, digits, low lines and points at the start of a
text, and what follows it. -/
def readName? (text : List Char) : Option (List Char × List Char) :=
  if text.head?.any isNameStart then some (text.takeWhile isNameChar, text.dropWhile isNameChar) else none

def afterEquals? : List Char → Option (List Char)
  | '=' :: rest => some rest
  | _ => none

/-- The name and the text behind the equals sign. The word `export` in front of
a name is skipped; before an equals sign it is a name itself. -/
def readKey? (text : List Char) : Option (List Char × List Char) := do
  let (name, rest) ← readName? text
  match afterEquals? (Text.trimStart rest) with
  | some value => return (name, value)
  | none =>
    if name = "export".toList then
      let (name, rest) ← readName? (Text.trimStart rest)
      let value ← afterEquals? (Text.trimStart rest)
      return (name, value)
    else none

/-- Reads an entry; `lookup` gives the values that it may refer to. -/
def readEntry (lookup : String → String) (text : List Char) : Entry :=
  let text := Text.trim text
  if text = [] ∨ text.head? = some '#' then .empty
  else
    match readKey? text with
    | none => .malformed
    | some (name, rest) =>
      let rest := Text.trimStart rest
      let value? := if rest.head? = some '#' then some [] else readValue? lookup .bare rest
      match value? with
      | none => .malformed
      | some value => .set ⟨String.ofList name, String.ofList value⟩

/-- Reads the entries in order. An entry refers to variables of the process and,
where these are not set, to earlier entries; anything else is empty. -/
def readEntries (process : Environment) : Entries String → List (Option (List Char)) → List Entry
  | _, [] => []
  | earlier, none :: rest => .malformed :: readEntries process earlier rest
  | earlier, some text :: rest =>
    let lookup name := (process name <|> earlier.get? name).getD ""
    match readEntry lookup text with
    | .set assignment =>
      .set assignment :: readEntries process (earlier.insert assignment.key assignment.value) rest
    | entry => entry :: readEntries process earlier rest

def read (process : Environment) (content : ByteArray) : List Entry :=
  readEntries process [] (entriesFrom [] .plain (lines content))

/-- What an opened path gives when its entries are asked for: those of a file,
or a fault each time. A fault is taken for an entry that cannot be read, and not
for the end. -/
inductive Reader where
  | entries (rest : List Entry)
  | faults

end Overlay.EnvFile
