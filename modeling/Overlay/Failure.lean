import Overlay.Value
import Overlay.Yaml.Fault

namespace Overlay

/-- Why a file cannot be read as text, or why nothing can be found out about its
path. -/
inductive FileFault where
  | isDirectory
  | notDirectory
  | denied
  | nameTooLong
  | nulInPath
  | invalidText
  | other (description : String)
  deriving DecidableEq, Repr

def FileFault.message : FileFault → String
  | .isDirectory => "Is a directory (os error 21)"
  | .notDirectory => "Not a directory (os error 20)"
  | .denied => "Permission denied (os error 13)"
  | .nameTooLong => "File name too long (os error 36)"
  | .nulInPath => "file name contained an unexpected NUL byte"
  | .invalidText => "stream did not contain valid UTF-8"
  | .other description => description

/-- Why a well-formed document is not a set of arguments. -/
inductive DocumentFault where
  | integerOutOfRange (value : Nat)
  | unsupportedNumber (value : Int)
  | collectionAsKey
  | topLevel (origin : String) (found : Kind)
  deriving DecidableEq, Repr

def DocumentFault.message : DocumentFault → String
  | .integerOutOfRange value => "integer " ++ toString value ++ " is out of range"
  | .unsupportedNumber value => "unsupported number " ++ toString value
  | .collectionAsKey => "mapping keys must be scalars"
  | .topLevel origin found => "top-level value in " ++ origin ++ " must be a mapping, found " ++ found.name

/-- Why a set of arguments cannot be loaded. -/
inductive Failure where
  | missingVariable (name : String)
  | typeMismatch (key : String) (expected found : Kind)
  | unknownArgument (key : String)
  | fileNotFound (path : String)
  | unreadableFile (path : String) (fault : FileFault)
  | malformedYaml (origin : String) (fault : Yaml.Fault)
  | invalidDocument (fault : DocumentFault)
  | invalidAssignment (text : String)
  deriving DecidableEq, Repr

/-- What went wrong, without the details of a syntax fault. -/
def Failure.headline : Failure → String
  | .missingVariable name => "environment variable " ++ name ++ " in yaml not found"
  | .typeMismatch key expected found =>
    "Invalid type for '" ++ key ++ "' in YAML. Expected '" ++ expected.name ++ "', got '" ++ found.name ++ "'."
  | .unknownArgument key => "Unknown argument '" ++ key ++ "' in YAML config."
  | .fileNotFound path => "Configuration file not found: " ++ path
  | .unreadableFile path fault => "Failed to read configuration file " ++ path ++ ": " ++ fault.message
  | .malformedYaml origin _ => "Failed to parse YAML in " ++ origin
  | .invalidDocument fault => "Invalid YAML document: " ++ fault.message
  | .invalidAssignment text => "Invalid argument '" ++ text ++ "', expected KEY=VALUE"

def Failure.message (failure : Failure) : String :=
  match failure with
  | .malformedYaml _ fault => failure.headline ++ ": " ++ fault.message
  | _ => failure.headline

end Overlay
