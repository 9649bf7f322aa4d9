namespace Overlay.Yaml

/-- The octets of a tag. Escapes may write any octet, so a tag need not be a
text. -/
abbrev Octets := List UInt8

def octetsOf (text : List Char) : Octets := (String.ofList text).toUTF8.toList

inductive Token where
  | versionDirective (major minor : Nat)
  | tagDirective (handle : List Char) (replacement : Octets)
  | documentStart
  | documentEnd
  | blockSequenceStart
  | blockMappingStart
  | blockEnd
  | flowSequenceStart
  | flowSequenceEnd
  | flowMappingStart
  | flowMappingEnd
  | blockEntry
  | flowEntry
  | key
  | value
  | alias (name : String)
  | anchor (name : String)
  | tag (handle : List Char) (suffix : Octets)
  | scalar (plain : Bool) (text : String)
  deriving DecidableEq, Repr

end Overlay.Yaml
