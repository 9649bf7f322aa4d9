import Overlay.EnvFile
import Overlay.Files

namespace Overlay

abbrev ProcessVariables := List ByteArray

namespace ProcessVariables

def ofPairs (pairs : List (String × ByteArray)) : ProcessVariables :=
  pairs.map fun (name, value) => (name ++ "=").toUTF8 ++ value

/-- The texts of a block in which each one ends with a zero. -/
def ofBlock : List UInt8 → ProcessVariables
  | [] => []
  | byte :: rest =>
    if byte = 0 then ⟨#[]⟩ :: ofBlock rest
    else
      match ofBlock rest with
      | [] => [⟨#[byte]⟩]
      | text :: more => ⟨#[byte] ++ text.data⟩ :: more

def behind? : List UInt8 → List UInt8 → Option (List UInt8)
  | [], bytes => some bytes
  | _ :: _, [] => none
  | expected :: more, byte :: bytes => if expected = byte then behind? more bytes else none

/-- The value behind the first text that starts with the name and an equals
sign. A value that is not UTF-8 counts as unset, and so does every empty name.
-/
def environment (process : ProcessVariables) : Environment := fun name =>
  if name = "" then none
  else
    match process.findSome? fun text => behind? (name ++ "=").toUTF8.toList text.toList with
    | none => none
    | some value => String.fromUTF8? ⟨value.toArray⟩

end ProcessVariables

/-- Variables of its own in front of another environment. -/
structure LayeredEnvironment where
  bindings : Entries String
  below : Environment

namespace LayeredEnvironment

def isolated (bindings : Entries String) : LayeredEnvironment := ⟨bindings, fun _ => none⟩

/-- The own variables hide those below, even with an empty value. -/
def get? (layers : LayeredEnvironment) : Environment := fun name =>
  layers.bindings.get? name <|> layers.below name

/-- Sets the variables of a file; entries that cannot be read are skipped. -/
def setFile (bindings : Entries String) : List EnvFile.Entry → Run (Entries String)
  | [] => pure bindings
  | .empty :: rest => setFile bindings rest
  | .malformed :: rest => do
    Run.note .envEntrySkipped
    setFile bindings rest
  | .set assignment :: rest => do
    Run.note (.envEntry assignment.key)
    setFile (bindings.insert assignment.key assignment.value) rest

def setOverrides (bindings : Entries String) : List String → Run (Entries String)
  | [] => pure bindings
  | text :: rest =>
    match Assignment.parse? text with
    | none => Run.fail (.invalidAssignment text)
    | some assignment => do
      Run.note (.envOverride assignment.key)
      setOverrides (bindings.insert assignment.key assignment.value) rest

/-- Sets all that a reader gives, which never ends if each attempt is a fault.
-/
def setAll (bindings : Entries String) : EnvFile.Reader → Course (Entries String)
  | .entries entries => .ends (setFile bindings entries)
  | .faults => .endless [] .envEntrySkipped

/-- The variables of a file; there are none if it is missing or cannot be
opened. -/
def readFile (files : Files) (process : Environment) (path : String) : Course (Entries String) :=
  match files path with
  | .file content => (setAll [] (.entries (EnvFile.read process content))).behind (.envFile path)
  | .directory | .unreadable _ => (setAll [] .faults).behind (.envFile path)
  | .locked fault => .ends do
    Run.note (.envFile path)
    Run.note (.envFileLocked fault)
    return []
  | .missing | .fault _ => .ends do
    Run.note (.envFileMissing path)
    return []

/-- The variables of a file, overridden by texts `KEY=VALUE`, in front of those
of the process. -/
def load (files : Files) (process : Environment) (path : String) (overrides : List String) :
    Course LayeredEnvironment :=
  (readFile files process path).andThen fun fromFile => do
    let bindings ← setOverrides fromFile overrides
    return ⟨bindings, process⟩

end LayeredEnvironment

end Overlay
