import Overlay.Text.Blank

namespace Overlay.CommandLine

/-- Why the words of a command line are not understood, or need no further
reading. -/
inductive UsageFault where
  | missingArgument
  | unknownWord
  | unknownCommand
  | missingCommand
  | invalidValue
  | repeatedSwitch
  | unexpectedValue
  | helpWanted
  | versionWanted
  deriving DecidableEq, Repr

/-- What a switch does: it stands alone, it has a value and may be given once or
often, or it ends the reading. -/
inductive Arity where
  | alone
  | once
  | often
  | stop (fault : UsageFault)
  deriving DecidableEq

def Arity.hasValue : Arity → Bool
  | .once | .often => true
  | .alone | .stop _ => false

/-- A named setting: `--name` or, if it has one, a minus sign and its letter. -/
structure Switch where
  name : String
  letter : Option Char
  arity : Arity
  accepts : String → Bool := fun _ => true

/-- What was read so far. The value of a pending switch may still come, or else
waits to be checked. -/
structure Progress where
  words : List String
  given : List (String × String)
  pending : Option (Switch × Option String)
  wordsOnly : Bool

namespace Progress

def start : Progress := ⟨[], [], none, false⟩

def awaitsValue (progress : Progress) : Bool :=
  match progress.pending with
  | some (_, none) => true
  | _ => false

def isGiven (progress : Progress) (switch : Switch) : Bool :=
  progress.given.any fun entry => entry.1 == switch.name

/-- Records a switch; that it is there twice counts before what its value is. -/
def record (progress : Progress) (switch : Switch) (value : Option String) : Except UsageFault Progress :=
  match switch.arity, value with
  | .stop fault, _ => .error fault
  | .alone, _ =>
    if progress.isGiven switch then .error .repeatedSwitch
    else .ok { progress with given := progress.given ++ [(switch.name, "true")] }
  | .once, some value =>
    if progress.isGiven switch then .error .repeatedSwitch
    else if switch.accepts value then .ok { progress with given := progress.given ++ [(switch.name, value)] }
    else .error .invalidValue
  | .often, some value =>
    if switch.accepts value then .ok { progress with given := progress.given ++ [(switch.name, value)] }
    else .error .invalidValue
  | _, none => .error .invalidValue

def settle (progress : Progress) : Except UsageFault Progress :=
  match progress.pending with
  | none => .ok progress
  | some (switch, value) => { progress with pending := none }.record switch value

/-- Reads a switch with the value attached to it, or without one. -/
def readSwitch (progress : Progress) (switch : Switch) (attached : Option String) : Except UsageFault Progress := do
  let settled ← progress.settle
  if switch.arity.hasValue ∧ attached = none then return { settled with pending := some (switch, none) }
  settled.record switch attached

/-- Reads letters behind a minus sign. What follows the letter of a switch with
a value is that value, with or without an equals sign in front. -/
def readLetters (switches : List Switch) (progress : Progress) : List Char → Except UsageFault Progress
  | [] => .ok progress
  | letter :: rest =>
    match switches.find? fun switch => switch.letter == some letter with
    | none => .error .unknownWord
    | some switch =>
      if switch.arity.hasValue then
        match rest with
        | [] => progress.readSwitch switch none
        | '=' :: value => progress.readSwitch switch (some (String.ofList value))
        | value => progress.readSwitch switch (some (String.ofList value))
      else do
        let progress ← progress.readSwitch switch none
        readLetters switches progress rest

/-- Reads a name behind two minus signs, with a value behind an equals sign or
without one. -/
def readName (switches : List Switch) (progress : Progress) (text : List Char) : Except UsageFault Progress :=
  let (name, attached) := match Text.splitAtFirst '=' text with
    | some (name, value) => (String.ofList name, some (String.ofList value))
    | none => (String.ofList text, none)
  match switches.find? fun switch => switch.name == name with
  | none => .error .unknownWord
  | some switch =>
    if !switch.arity.hasValue && attached.isSome then .error .unexpectedValue
    else progress.readSwitch switch attached

/-- Reads a word that belongs to no switch; there may be so many of them. -/
def readWord (limit : Nat) (progress : Progress) (word : String) : Except UsageFault Progress :=
  if progress.words.length < limit then do
    let settled ← progress.settle
    return { settled with words := settled.words ++ [word] }
  else .error (if limit = 0 then .unknownCommand else .unknownWord)

/-- Reads one word of the command line. Behind two minus signs there are no
switches any more. -/
def read (switches : List Switch) (limit : Nat) (progress : Progress) (word : String) :
    Except UsageFault Progress :=
  if progress.wordsOnly then progress.readWord limit word
  else
    match word.toList with
    | ['-', '-'] => .ok { progress with wordsOnly := true }
    | '-' :: '-' :: text => progress.readName switches text
    | '-' :: letter :: rest => progress.readLetters switches (letter :: rest)
    | _ =>
      match progress.pending with
      | some (switch, none) => .ok { progress with pending := some (switch, some word) }
      | _ => progress.readWord limit word

end Progress

/-- Reads the words of a command line up to the name of a command, with which
the words that follow it are given. -/
def readWords (switches : List Switch) (limit : Nat) (commands : List String) (progress : Progress) :
    List String → Except UsageFault (Progress × Option (String × List String))
  | [] => .ok (progress, none)
  | word :: rest =>
    if commands.contains word ∧ ¬progress.wordsOnly ∧ ¬progress.awaitsValue then
      .ok (progress, some (word, rest))
    else do
      let progress ← progress.read switches limit word
      readWords switches limit commands progress rest

def Progress.values (progress : Progress) (name : String) : List String :=
  (progress.given.filter fun entry => entry.1 == name).map Prod.snd

def Progress.value? (progress : Progress) (name : String) : Option String := (progress.values name).head?

end Overlay.CommandLine
