namespace Overlay.Yaml

/-- Why a text is not a YAML document that can be read. -/
inductive Fault where
  | forbiddenCharacter
  | unexpectedCharacter
  | tabInIndentation
  | missingColon
  | misplacedEntry
  | misplacedKey
  | misplacedValue
  | unknownDirective
  | malformedDirective
  | repeatedDirective
  | incompatibleVersion
  | malformedAnchor
  | malformedTag
  | undefinedTagHandle
  | malformedBlockHeader
  | unfinishedQuote
  | markerInQuote
  | unknownEscape
  | malformedEscape
  | unexpectedColon
  | missingDocumentStart
  | missingContent
  | missingDash
  | missingKey
  | missingSeparator
  | severalDocuments
  | unknownAnchor
  | tooDeep
  | tooManyAliases
  | contentUnlikeTag
  | integerTooLarge
  | repeatedKey
  | scalarInMerge
  | taggedInMerge
  | sequenceInMerge
  deriving DecidableEq, Repr

def Fault.message : Fault → String
  | .forbiddenCharacter => "control characters are not allowed"
  | .unexpectedCharacter => "found a character that cannot start any token"
  | .tabInIndentation => "found a tab where an indentation space is expected"
  | .missingColon => "could not find the expected ':' of a simple key"
  | .misplacedEntry => "a sequence entry is not allowed here"
  | .misplacedKey => "a mapping key is not allowed here"
  | .misplacedValue => "a mapping value is not allowed here"
  | .unknownDirective => "found an unknown directive"
  | .malformedDirective => "found a malformed directive"
  | .repeatedDirective => "found a repeated directive"
  | .incompatibleVersion => "found an incompatible document version"
  | .malformedAnchor => "found a malformed anchor or alias"
  | .malformedTag => "found a malformed tag"
  | .undefinedTagHandle => "found an undefined tag handle"
  | .malformedBlockHeader => "found a malformed header of a block scalar"
  | .unfinishedQuote => "found the end of the text inside a quoted scalar"
  | .markerInQuote => "found a document marker inside a quoted scalar"
  | .unknownEscape => "found an unknown escape sequence"
  | .malformedEscape => "found a malformed escape sequence"
  | .unexpectedColon => "found an unexpected ':'"
  | .missingDocumentStart => "did not find the expected start of a document"
  | .missingContent => "did not find the expected content of a node"
  | .missingDash => "did not find the expected '-'"
  | .missingKey => "did not find the expected key"
  | .missingSeparator => "did not find the expected ',' or closing bracket"
  | .severalDocuments => "found more than one document"
  | .unknownAnchor => "found an alias without an anchor"
  | .tooDeep => "the document is nested too deeply"
  | .tooManyAliases => "the document resolves too many aliases"
  | .contentUnlikeTag => "the content of a scalar does not have the form that its tag asks for"
  | .integerTooLarge => "found an integer of more than 64 bits"
  | .repeatedKey => "found a repeated key"
  | .scalarInMerge => "expected a mapping or a sequence of mappings to merge, found a scalar"
  | .taggedInMerge => "expected a mapping or a sequence of mappings to merge, found a tag"
  | .sequenceInMerge => "expected a mapping to merge, found a sequence"

end Overlay.Yaml
