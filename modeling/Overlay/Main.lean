import Overlay.CommandLine.Usage
import Overlay.Report

namespace Overlay.Main

/-- The number of a system error; some are given negated. -/
def errorNumber (code : UInt32) : Nat := (if code < 0x80000000 then code else -code).toNat

def faultOf : IO.Error → FileFault
  | .permissionDenied _ code details =>
    match errorNumber code with
    | 13 => .denied
    | number => .other (details ++ " (os error " ++ toString number ++ ")")
  | .inappropriateType _ code details =>
    match errorNumber code with
    | 21 => .isDirectory
    | 20 => .notDirectory
    | number => .other (details ++ " (os error " ++ toString number ++ ")")
  | .invalidArgument _ code details =>
    match errorNumber code with
    | 36 => .nameTooLong
    | 22 => .nulInPath
    | number => .other (details ++ " (os error " ++ toString number ++ ")")
  | error => .other (toString error)

/-- The status of a path that cannot be read, by the fault and by whether it can
be opened and whether it is there. -/
def failedStatus (opens isThere : Bool) : IO.Error → FileStatus
  | .noFileOrDirectory .. => .missing
  | error =>
    match faultOf error with
    | .isDirectory => .directory
    | fault => if opens then .unreadable fault else if isThere then .locked fault else .fault fault

def fileStatus (path : String) : IO FileStatus := do
  match ← (IO.FS.readBinFile path).toBaseIO with
  | .ok content => return .file content
  | .error error =>
    let opens := (← (IO.FS.Handle.mk path .read).toBaseIO).isOk
    let isThere := (← (IO.FS.realPath path).toBaseIO).isOk
    return failedStatus opens isThere error

/-- Reads the files that the options name; nothing else is asked for. -/
def readFiles (options : Options) : IO Files := do
  let paths := options.envFile :: options.config :: options.defaults.toList
  let found ← paths.mapM fun path => return (path, ← fileStatus path)
  return fun path => (found.lookup path).getD .missing

def processEnvironment : IO Environment := do
  match ← (IO.FS.readBinFile "/proc/self/environ").toBaseIO with
  | .ok block => return (ProcessVariables.ofBlock block.toList).environment
  | .error _ => return fun _ => none

/-- Writes to the error stream again and again and never returns. -/
def writeForever (text : String) : IO UInt8 := do
  repeat IO.eprint text
  return 1

def run (words : List String) : IO UInt8 := do
  match CommandLine.readInvocation words with
  | .error fault =>
    IO.print fault.output
    IO.eprint fault.errorOutput
    return fault.exitCode
  | .ok invocation =>
    let process ← processEnvironment
    let coloured := Terminal.coloursWanted process (← (← IO.getStdout).isTty)
    let report := invocation.report (← readFiles invocation.options) process coloured
    let errors := report.errorOutput invocation.shownLevel coloured
    IO.print report.output
    IO.eprint errors.text
    match report.exitCode? with
    | some code => return code
    | none => writeForever errors.again

end Overlay.Main

def main (words : List String) : IO UInt32 := do
  return (← Overlay.Main.run words).toUInt32
