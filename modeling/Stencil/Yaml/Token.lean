/-!
# YAML tokens

The pieces a YAML text falls into, the places where they stand, and what can be wrong with the text.
-/

namespace Stencil.Yaml

/-- A place in a text, counted from zero. -/
structure Mark where
  line : Nat
  column : Nat
  index : Nat
  deriving DecidableEq, Repr

/-- The start of a text. -/
def Mark.start : Mark := ⟨0, 0, 0⟩

/-- A place in words, counted from one. -/
def Mark.words (m : Mark) : String :=
  "line " ++ toString (m.line + 1) ++ " column " ++ toString (m.column + 1)

/-- Whether a place is the start of the text, which messages leave out. -/
def Mark.isStart (m : Mark) : Bool := m.line == 0 && m.column == 0

/-- A place at the end of a message. -/
def Mark.suffix (m : Mark) : String := if m.isStart then "" else " at " ++ m.words

/-- What was being read when a problem was met. -/
inductive Context where
  | nextToken
  | simpleKey
  | directive
  | yamlDirective
  | tagDirective
  | anchor
  | reference
  | tag
  | blockScalar
  | quotedScalar
  | quotedEscape
  | plainScalar
  | node
  | blockNode
  | flowNode
  | blockCollection
  | blockMapping
  | flowSequence
  | flowMapping
  deriving DecidableEq, Repr

/-- A context in words. -/
def Context.words : Context → String
  | .nextToken => "while scanning for the next token"
  | .simpleKey => "while scanning a simple key"
  | .directive => "while scanning a directive"
  | .yamlDirective => "while scanning a %YAML directive"
  | .tagDirective => "while scanning a %TAG directive"
  | .anchor => "while scanning an anchor"
  | .reference => "while scanning an alias"
  | .tag => "while scanning a tag"
  | .blockScalar => "while scanning a block scalar"
  | .quotedScalar => "while scanning a quoted scalar"
  | .quotedEscape => "while parsing a quoted scalar"
  | .plainScalar => "while scanning a plain scalar"
  | .node => "while parsing a node"
  | .blockNode => "while parsing a block node"
  | .flowNode => "while parsing a flow node"
  | .blockCollection => "while parsing a block collection"
  | .blockMapping => "while parsing a block mapping"
  | .flowSequence => "while parsing a flow sequence"
  | .flowMapping => "while parsing a flow mapping"

/-- What can be wrong with a YAML text. -/
inductive Trouble where
  | noToken
  | noColon
  | entryNotAllowed
  | keyNotAllowed
  | valueNotAllowed
  | noDirectiveName
  | badDirectiveName
  | unknownDirective
  | noVersion
  | longVersion
  | noVersionPoint
  | noBlank
  | noLineEnd
  | noName
  | noTagMark
  | noUri
  | badUriEscape
  | badUriByte
  | noTagBlank
  | zeroIndent
  | tabIndent
  | documentMark
  | endOfStream
  | unknownEscape
  | noHexDigits
  | badCodePoint
  | plainColon
  | plainTab
  | noDocumentStart
  | repeatedVersion
  | wrongVersion
  | repeatedTagDirective
  | unknownTagHandle
  | noContent
  | noDash
  | noKey
  | noSequenceEnd
  | noMappingEnd
  deriving DecidableEq, Repr

/-- What is wrong, in words. -/
def Trouble.words : Trouble → String
  | .noToken => "found character that cannot start any token"
  | .noColon => "could not find expected ':'"
  | .entryNotAllowed => "block sequence entries are not allowed in this context"
  | .keyNotAllowed => "mapping keys are not allowed in this context"
  | .valueNotAllowed => "mapping values are not allowed in this context"
  | .noDirectiveName => "could not find expected directive name"
  | .badDirectiveName => "found unexpected non-alphabetical character"
  | .unknownDirective => "found unknown directive name"
  | .noVersion => "did not find expected version number"
  | .longVersion => "found extremely long version number"
  | .noVersionPoint => "did not find expected digit or '.' character"
  | .noBlank => "did not find expected whitespace"
  | .noLineEnd => "did not find expected comment or line break"
  | .noName => "did not find expected alphabetic or numeric character"
  | .noTagMark => "did not find expected '!'"
  | .noUri => "did not find expected tag URI"
  | .badUriEscape => "did not find URI escaped octet"
  | .badUriByte => "found an incorrect leading UTF-8 octet"
  | .noTagBlank => "did not find expected whitespace or line break"
  | .zeroIndent => "found an indentation indicator equal to 0"
  | .tabIndent => "found a tab character where an indentation space is expected"
  | .documentMark => "found unexpected document indicator"
  | .endOfStream => "found unexpected end of stream"
  | .unknownEscape => "found unknown escape character"
  | .noHexDigits => "did not find expected hexdecimal number"
  | .badCodePoint => "found invalid Unicode character escape code"
  | .plainColon => "found unexpected ':'"
  | .plainTab => "found a tab character that violates indentation"
  | .noDocumentStart => "did not find expected <document start>"
  | .repeatedVersion => "found duplicate %YAML directive"
  | .wrongVersion => "found incompatible YAML document"
  | .repeatedTagDirective => "found duplicate %TAG directive"
  | .unknownTagHandle => "found undefined tag handle"
  | .noContent => "did not find expected node content"
  | .noDash => "did not find expected '-' indicator"
  | .noKey => "did not find expected key"
  | .noSequenceEnd => "did not find expected ',' or ']'"
  | .noMappingEnd => "did not find expected ',' or '\x7d'"

/-- A problem with its place, and perhaps what was being read and since where. -/
inductive Fault where
  | at (trouble : Trouble) (mark : Mark) (context : Option (Context × Mark))
  /-- A character that YAML texts do not hold, with its position in bytes. -/
  | control (offset : Nat)
  deriving DecidableEq, Repr

/-- A problem in words. -/
def Fault.words : Fault → String
  | .control offset =>
    "control characters are not allowed"
      ++ (if offset == 0 then "" else " at position " ++ toString offset)
  | .at trouble mark none => trouble.words ++ mark.suffix
  | .at trouble mark (some (context, since)) =>
    trouble.words ++ mark.suffix ++ ", " ++ context.words
      ++ (if since.line == mark.line && since.column == mark.column then "" else since.suffix)

/-- How a scalar is written. -/
inductive Style where
  | plain
  | quoted
  | literal
  | folded
  deriving DecidableEq, Repr

/-- The pieces of a YAML text. -/
inductive Token where
  | streamEnd
  | version (major minor : Nat)
  | tagDirective (handle start : String)
  | documentStart
  | documentEnd
  | blockSequenceStart
  | blockMappingStart
  | blockEnd
  | flowSequenceStart
  | flowSequenceEnd
  | flowMappingStart
  | flowMappingEnd
  | blockEntry
  | flowEntry
  | key
  | value
  | reference (name : String)
  | anchor (name : String)
  | tag (handle suffix : String)
  | scalar (text : String) (style : Style)
  deriving DecidableEq, Repr

/-- A token and where it starts and ends. -/
structure Placed where
  token : Token
  start : Mark
  finish : Mark
  deriving DecidableEq, Repr

end Stencil.Yaml
