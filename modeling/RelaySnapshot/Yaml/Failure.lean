import RelaySnapshot.Text.Decimal

namespace RelaySnapshot.Yaml

/--
A place in a document: how many characters precede it, its line, counted from one, and its column,
counted from zero.
-/
structure Mark where
  index : Nat := 0
  line : Nat := 1
  column : Nat := 0
  deriving DecidableEq, Repr

inductive Problem where
  /-- A key that has to be one is not followed by a colon in its line. -/
  | keyWithoutColon
  | keyExpected
  | strayCharacter (c : Char)
  | tooDeep
  | directiveEnd
  | directiveName
  | directiveNameEnd
  | versionNumber
  | versionLength
  | versionPoint
  | tagDirectiveMark
  | tagDirectiveEnd
  | tagMark
  | tagUri
  | tagVerbatimEnd
  | tagEnd
  | uriOctet
  | uriLead
  | uriTrail
  | uriCode
  | anchorName
  | blockIndentZero
  | blockHeaderEnd
  | blockTab
  | quotedIndicator
  | quotedEnd
  | quotedEscape
  | quotedDigits
  | quotedCode
  | plainTab
  | entryNotAllowed
  | entryInFlow
  | keyNotAllowed
  | valueNotAllowed
  | noDocumentStart
  | unknownAnchor
  | noNode
  | noBlockKey
  | noBlockEntry
  | noFlowEntryInMap
  | noFlowEntryInList
  | endOfTokens
  deriving DecidableEq, Repr

namespace Problem

def message : Problem → String
  | keyWithoutColon => "simple key expect ':'"
  | keyExpected => "simple key expected"
  | strayCharacter c => s!"unexpected character: `{c}'"
  | tooDeep => "recursion limit exceeded"
  | directiveEnd => "while scanning a directive, did not find expected comment or line break"
  | directiveName => "while scanning a directive, could not find expected directive name"
  | directiveNameEnd => "while scanning a directive, found unexpected non-alphabetical character"
  | versionNumber => "while scanning a YAML directive, did not find expected version number"
  | versionLength => "while scanning a YAML directive, found extremely long version number"
  | versionPoint =>
    "while scanning a YAML directive, did not find expected digit or '.' character"
  | tagDirectiveMark => "while parsing a tag directive, did not find expected '!'"
  | tagDirectiveEnd => "while scanning TAG, did not find expected whitespace or line break"
  | tagMark => "while scanning a tag, did not find expected '!'"
  | tagUri => "while parsing a tag, did not find expected tag URI"
  | tagVerbatimEnd => "while scanning a tag, did not find the expected '>'"
  | tagEnd => "while scanning a tag, did not find expected whitespace or line break"
  | uriOctet => "while parsing a tag, did not find URI escaped octet"
  | uriLead => "while parsing a tag, found an incorrect leading UTF-8 octet"
  | uriTrail => "while parsing a tag, found an incorrect trailing UTF-8 octet"
  | uriCode => "while parsing a tag, found an invalid UTF-8 codepoint"
  | anchorName => "while scanning an anchor or alias, did not find expected alphabetic or " ++
      "numeric character"
  | blockIndentZero =>
    "while scanning a block scalar, found an indentation indicator equal to 0"
  | blockHeaderEnd =>
    "while scanning a block scalar, did not find expected comment or line break"
  | blockTab => "while scanning a block scalar, found a tab character where an indentation " ++
      "space is expected"
  | quotedIndicator => "while scanning a quoted scalar, found unexpected document indicator"
  | quotedEnd => "while scanning a quoted scalar, found unexpected end of stream"
  | quotedEscape => "while parsing a quoted scalar, found unknown escape character"
  | quotedDigits => "while parsing a quoted scalar, did not find expected hexadecimal number"
  | quotedCode =>
    "while parsing a quoted scalar, found invalid Unicode character escape code"
  | plainTab => "while scanning a plain scalar, found a tab"
  | entryNotAllowed => "block sequence entries are not allowed in this context"
  | entryInFlow => "\"-\" is only valid inside a block"
  | keyNotAllowed => "mapping keys are not allowed in this context"
  | valueNotAllowed => "mapping values are not allowed in this context"
  | noDocumentStart => "did not find expected <document start>"
  | unknownAnchor => "while parsing node, found unknown anchor"
  | noNode => "while parsing a node, did not find expected node content"
  | noBlockKey => "while parsing a block mapping, did not find expected key"
  | noBlockEntry => "while parsing a block collection, did not find expected '-' indicator"
  | noFlowEntryInMap => "while parsing a flow mapping, did not find expected ',' or '\x7d'"
  | noFlowEntryInList => "while parsing a flow sequence, expected ',' or ']'"
  | endOfTokens => "unexpected eof"

end Problem

structure Failure where
  problem : Problem
  mark : Mark
  deriving DecidableEq, Repr

def Failure.report (f : Failure) : String :=
  let line := String.ofList (Decimal.write f.mark.line)
  let column := String.ofList (Decimal.write (f.mark.column + 1))
  s!"{f.problem.message} at line {line} column {column}"

end RelaySnapshot.Yaml
