/-!
# What can be wrong with a YAML text
-/

namespace Playbook.Yaml

inductive Fault where
  /-- A character that may not stand in a document at all. -/
  | character
  /-- A character that starts no token where it stands. -/
  | noToken
  | tab
  | missingColon
  | misplacedEntry
  | misplacedKey
  | misplacedValue
  | unclosedScalar
  | documentMark
  | escape
  | blockHeader
  | colonInFlow
  | anchor
  | tag
  | directive
  | version
  | unknownHandle
  | missingNode
  | missingSeparator
  | missingKey
  | missingDocumentStart
  | unknownAnchor
  | tooManyAliases
  | tooDeep
  | duplicateKey
  | scalar
  | integerRange
  | moreDocuments
  deriving DecidableEq, Repr

def Fault.message : Fault → String
  | .character => "control characters are not allowed"
  | .noToken => "found character that cannot start any token"
  | .tab => "found a tab character that violates indentation"
  | .missingColon => "could not find expected ':'"
  | .misplacedEntry => "block sequence entries are not allowed in this context"
  | .misplacedKey => "mapping keys are not allowed in this context"
  | .misplacedValue => "mapping values are not allowed in this context"
  | .unclosedScalar => "found unexpected end of stream"
  | .documentMark => "found unexpected document indicator"
  | .escape => "found unknown escape character"
  | .blockHeader => "did not find expected comment or line break"
  | .colonInFlow => "found unexpected ':'"
  | .anchor => "did not find expected alphabetic or numeric character"
  | .tag => "did not find expected tag"
  | .directive => "found unknown directive name"
  | .version => "found incompatible YAML document"
  | .unknownHandle => "found undefined tag handle"
  | .missingNode => "did not find expected node content"
  | .missingSeparator => "did not find expected ',' or end of collection"
  | .missingKey => "did not find expected key"
  | .missingDocumentStart => "did not find expected <document start>"
  | .unknownAnchor => "unknown anchor"
  | .tooManyAliases => "repetition limit exceeded"
  | .tooDeep => "recursion limit exceeded"
  | .duplicateKey => "duplicate entry in mapping"
  | .scalar => "invalid value for its tag"
  | .integerRange => "integer out of range"
  | .moreDocuments => "deserializing from YAML containing more than one document is not supported"

end Playbook.Yaml
