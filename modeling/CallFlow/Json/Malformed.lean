/-!
# Malformed JSON text

The ways in which a text fails to be JSON, each with its message.
-/

namespace CallFlow.Json

/-- A point at which a text stops being JSON. -/
inductive Malformed where
  | endInArray
  | endInObject
  | endInString
  | endInValue
  | expectedColon
  | expectedCommaOrArrayEnd
  | expectedCommaOrObjectEnd
  | expectedLiteral
  | expectedValue
  | invalidEscape
  | invalidNumber
  | numberOutOfRange
  | loneSurrogate
  | unfinishedSurrogatePair
  | controlCharacter
  | keyNotString
  | trailingComma
  | trailingCharacters
  | tooDeep
  deriving DecidableEq

/-- The message of a malformed text. -/
def Malformed.message : Malformed → String
  | .endInArray => "EOF while parsing a list"
  | .endInObject => "EOF while parsing an object"
  | .endInString => "EOF while parsing a string"
  | .endInValue => "EOF while parsing a value"
  | .expectedColon => "expected `:`"
  | .expectedCommaOrArrayEnd => "expected `,` or `]`"
  | .expectedCommaOrObjectEnd => "expected `,` or `\x7d`"
  | .expectedLiteral => "expected ident"
  | .expectedValue => "expected value"
  | .invalidEscape => "invalid escape"
  | .invalidNumber => "invalid number"
  | .numberOutOfRange => "number out of range"
  | .loneSurrogate => "lone leading surrogate in hex escape"
  | .unfinishedSurrogatePair => "unexpected end of hex escape"
  | .controlCharacter => "control character (\\u0000-\\u001F) found while parsing a string"
  | .keyNotString => "key must be a string"
  | .trailingComma => "trailing comma"
  | .trailingCharacters => "trailing characters"
  | .tooDeep => "recursion limit exceeded"

end CallFlow.Json
