import LoadSeries.Text.Digits

/-! Causes for which a text is not YAML: what stands in the way, and what was being read. -/
namespace LoadSeries.Yaml

open Text

/-- A place in a text, by the lines before it and the characters before it on its line. -/
structure Mark where
  line : Nat
  column : Nat
deriving DecidableEq, Repr

namespace Mark

def origin : Mark := ⟨0, 0⟩

/-- What follows a message to say where; nothing at the beginning of the text. -/
def suffix (x : Mark) : String :=
  if x = origin then ""
  else " at line " ++ natString (x.line + 1) ++ " column " ++ natString (x.column + 1)

end Mark

inductive Activity where
  | nextToken
  | simpleKey
  | directive
  | versionDirective
  | tagDirective
  | handleStart
  | handleEnd
  | expansion
  | anchor
  | alias
  | tag
  | tagBody
  | blockScalar
  | quotedScalar
  | escape
  | plainScalar
  | properties
  | blockNode
  | flowNode
  | blockSequence
  | blockMapping
  | flowSequence
  | flowMapping
deriving DecidableEq, Repr

def Activity.text : Activity → String
  | .nextToken => "while scanning for the next token"
  | .simpleKey => "while scanning a simple key"
  | .directive => "while scanning a directive"
  | .versionDirective => "while scanning a %YAML directive"
  | .tagDirective => "while scanning a %TAG directive"
  | .handleStart => "while scanning a tag directive"
  | .handleEnd => "while parsing a tag directive"
  | .expansion => "while parsing a %TAG directive"
  | .anchor => "while scanning an anchor"
  | .alias => "while scanning an alias"
  | .tag => "while scanning a tag"
  | .tagBody => "while parsing a tag"
  | .blockScalar => "while scanning a block scalar"
  | .quotedScalar => "while scanning a quoted scalar"
  | .escape => "while parsing a quoted scalar"
  | .plainScalar => "while scanning a plain scalar"
  | .properties => "while parsing a node"
  | .blockNode => "while parsing a block node"
  | .flowNode => "while parsing a flow node"
  | .blockSequence => "while parsing a block collection"
  | .blockMapping => "while parsing a block mapping"
  | .flowSequence => "while parsing a flow sequence"
  | .flowMapping => "while parsing a flow mapping"

inductive Obstacle where
  | noToken
  | noColon
  | misplacedEntry
  | misplacedKey
  | misplacedValue
  | unknownDirective
  | unnamedDirective
  | directiveCharacter
  | noLineEnd
  | noVersionPoint
  | longVersion
  | noVersion
  | noBlank
  | noGap
  | noMark
  | noTagBody
  | noOctet
  | wrongLeadingOctet
  | wrongTrailingOctet
  | noAngleBracket
  | noName
  | zeroIndentation
  | tabInIndentation
  | documentMark
  | endOfText
  | unknownEscape
  | noHexDigit
  | wrongCodePoint
  | strayColon
  | tabBeforeIndentation
  | noDocumentStart
  | secondVersion
  | wrongVersion
  | secondHandle
  | unknownHandle
  | noNode
  | noHyphen
  | noKey
  | noCommaOrBracket
  | noCommaOrBrace
  | unknownAnchor
deriving DecidableEq, Repr

def Obstacle.text : Obstacle → String
  | .noToken => "found character that cannot start any token"
  | .noColon => "could not find expected ':'"
  | .misplacedEntry => "block sequence entries are not allowed in this context"
  | .misplacedKey => "mapping keys are not allowed in this context"
  | .misplacedValue => "mapping values are not allowed in this context"
  | .unknownDirective => "found unknown directive name"
  | .unnamedDirective => "could not find expected directive name"
  | .directiveCharacter => "found unexpected non-alphabetical character"
  | .noLineEnd => "did not find expected comment or line break"
  | .noVersionPoint => "did not find expected digit or '.' character"
  | .longVersion => "found extremely long version number"
  | .noVersion => "did not find expected version number"
  | .noBlank => "did not find expected whitespace"
  | .noGap => "did not find expected whitespace or line break"
  | .noMark => "did not find expected '!'"
  | .noTagBody => "did not find expected tag URI"
  | .noOctet => "did not find URI escaped octet"
  | .wrongLeadingOctet => "found an incorrect leading UTF-8 octet"
  | .wrongTrailingOctet => "found an incorrect trailing UTF-8 octet"
  | .noAngleBracket => "did not find the expected '>'"
  | .noName => "did not find expected alphabetic or numeric character"
  | .zeroIndentation => "found an indentation indicator equal to 0"
  | .tabInIndentation => "found a tab character where an indentation space is expected"
  | .documentMark => "found unexpected document indicator"
  | .endOfText => "found unexpected end of stream"
  | .unknownEscape => "found unknown escape character"
  | .noHexDigit => "did not find expected hexdecimal number"
  | .wrongCodePoint => "found invalid Unicode character escape code"
  | .strayColon => "found unexpected ':'"
  | .tabBeforeIndentation => "found a tab character that violates indentation"
  | .noDocumentStart => "did not find expected <document start>"
  | .secondVersion => "found duplicate %YAML directive"
  | .wrongVersion => "found incompatible YAML document"
  | .secondHandle => "found duplicate %TAG directive"
  | .unknownHandle => "found undefined tag handle"
  | .noNode => "did not find expected node content"
  | .noHyphen => "did not find expected '-' indicator"
  | .noKey => "did not find expected key"
  | .noCommaOrBracket => "did not find expected ',' or ']'"
  | .noCommaOrBrace => "did not find expected ',' or '\x7d'"
  | .unknownAnchor => "unknown anchor"

inductive SyntaxFault where
  | unreadable (offset : Nat)
  | unexpected (obstacle : Obstacle) (place : Mark) (during : Option (Activity × Mark))
deriving DecidableEq, Repr

namespace SyntaxFault

def text : SyntaxFault → String
  | unreadable offset =>
    "control characters are not allowed" ++
      if offset = 0 then "" else " at position " ++ natString offset
  | unexpected obstacle place none => obstacle.text ++ place.suffix
  | unexpected obstacle place (some (activity, start)) =>
    obstacle.text ++ place.suffix ++ ", " ++ activity.text ++
      if start = place then "" else start.suffix

end SyntaxFault

end LoadSeries.Yaml
