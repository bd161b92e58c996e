/-!
# Faults of YAML texts
-/

namespace FileSearch.Yaml

/-- A place in a text: the number of characters before it, its line, counted from one, and the number
of characters before it in the line. -/
structure Mark where
  index : Nat
  line : Nat
  column : Nat
  deriving DecidableEq, Repr, Inhabited

/-- What can be wrong with a text. -/
inductive Cause where
  | anchorName
  | blockEntryNotAllowed
  | blockEntryInFlow
  | blockIndentZero
  | blockHeaderEnd
  | blockTab
  | directiveEnd
  | directiveName
  | directiveNameEnd
  | documentStart
  | flowMappingEnd
  | flowSequenceEnd
  | keyNotAllowed
  | mappingKey
  | nestingLimit
  | node
  | plainTab
  | quotedDocument
  | quotedEnd
  | quotedEscape
  | quotedHex
  | quotedCode
  | sequenceEntry
  | simpleKeyExpected
  | simpleKeyColon
  | streamEnd
  | tagBang
  | tagClose
  | tagDirectiveBang
  | tagDirectiveEnd
  | tagEnd
  | tagUri
  | tagOctet
  | tagLeadingOctet
  | tagTrailingOctet
  | tagCode
  | unknownAnchor
  | unexpectedChar (c : Char)
  | valueNotAllowed
  | versionPoint
  | versionLength
  | versionNumber
  deriving DecidableEq, Repr

/-- The wording of a cause. -/
def Cause.message : Cause → String
  | .anchorName =>
    "while scanning an anchor or alias, did not find expected alphabetic or numeric character"
  | .blockEntryNotAllowed => "block sequence entries are not allowed in this context"
  | .blockEntryInFlow => "\"-\" is only valid inside a block"
  | .blockIndentZero =>
    "while scanning a block scalar, found an intendation indicator equal to 0"
  | .blockHeaderEnd =>
    "while scanning a block scalar, did not find expected comment or line break"
  | .blockTab =>
    "while scanning a block scalar, found a tab character where an intendation space is expected"
  | .directiveEnd => "while scanning a directive, did not find expected comment or line break"
  | .directiveName => "while scanning a directive, could not find expected directive name"
  | .directiveNameEnd =>
    "while scanning a directive, found unexpected non-alphabetical character"
  | .documentStart => "did not find expected <document start>"
  | .flowMappingEnd => "while parsing a flow mapping, did not find expected ',' or '\x7d'"
  | .flowSequenceEnd => "while parsing a flow sequence, expectd ',' or ']'"
  | .keyNotAllowed => "mapping keys are not allowed in this context"
  | .mappingKey => "while parsing a block mapping, did not find expected key"
  | .nestingLimit => "recursion limit exceeded"
  | .node => "while parsing a node, did not find expected node content"
  | .plainTab => "while scanning a plain scalar, found a tab"
  | .quotedDocument => "while scanning a quoted scalar, found unexpected document indicator"
  | .quotedEnd => "while scanning a quoted scalar, found unexpected end of stream"
  | .quotedEscape => "while parsing a quoted scalar, found unknown escape character"
  | .quotedHex => "while parsing a quoted scalar, did not find expected hexdecimal number"
  | .quotedCode =>
    "while parsing a quoted scalar, found invalid Unicode character escape code"
  | .sequenceEntry =>
    "while parsing a block collection, did not find expected '-' indicator"
  | .simpleKeyExpected => "simple key expected"
  | .simpleKeyColon => "simple key expect ':'"
  | .streamEnd => "unexpected eof"
  | .tagBang => "while scanning a tag, did not find expected '!'"
  | .tagClose => "while scanning a tag, did not find the expected '>'"
  | .tagDirectiveBang => "while parsing a tag directive, did not find expected '!'"
  | .tagDirectiveEnd => "while scanning TAG, did not find expected whitespace or line break"
  | .tagEnd => "while scanning a tag, did not find expected whitespace or line break"
  | .tagUri => "while parsing a tag, did not find expected tag URI"
  | .tagOctet => "while parsing a tag, did not find URI escaped octet"
  | .tagLeadingOctet => "while parsing a tag, found an incorrect leading UTF-8 octet"
  | .tagTrailingOctet => "while parsing a tag, found an incorrect trailing UTF-8 octet"
  | .tagCode => "while parsing a tag, found an invalid UTF-8 codepoint"
  | .unknownAnchor => "while parsing node, found unknown anchor"
  | .unexpectedChar c => "unexpected character: `" ++ c.toString ++ "'"
  | .valueNotAllowed => "mapping values are not allowed in this context"
  | .versionPoint =>
    "while scanning a YAML directive, did not find expected digit or '.' character"
  | .versionLength => "while scanning a YAML directive, found extremely long version number"
  | .versionNumber => "while scanning a YAML directive, did not find expected version number"

/-- A cause with its place. -/
structure Fault where
  cause : Cause
  mark : Mark
  deriving DecidableEq, Repr

/-- The message of a fault; columns are counted from one. -/
def Fault.message (f : Fault) : String :=
  f.cause.message ++ " at line " ++ toString f.mark.line ++ " column " ++
    toString (f.mark.column + 1)

end FileSearch.Yaml
