/-!
# ReportRules.Json.Fault -- why a text is not JSON

Each way in which a text can fail to be JSON is a `Fault`. Faults fall into two classes: the text
ends too early (`Fault.isCutOff`), or a character is where it must not be.
-/

namespace ReportRules.Json

/-- What was being read when the text ended. -/
inductive Place
  | value
  | list
  | object
  | string
  deriving Repr, DecidableEq

/-- A place where a text stops being JSON. -/
inductive Fault
  | cutOff (reading : Place)
  | expectedColon
  | expectedListSeparator
  | expectedObjectSeparator
  | expectedLiteral
  | expectedValue
  | invalidEscape
  | invalidNumber
  | numberOutOfRange
  | controlCharacter
  | keyNotText
  | loneSurrogate
  | unpairedSurrogate
  | trailingComma
  | trailingCharacters
  | nestingTooDeep
  deriving Repr, DecidableEq

/-- The word for what was being read. -/
def Place.word : Place → String
  | .value => "a value"
  | .list => "a list"
  | .object => "an object"
  | .string => "a string"

namespace Fault

/-- The text ended before the value did. -/
def isCutOff : Fault → Bool
  | .cutOff _ => true
  | _ => false

/-- The sentence that reports a fault. -/
def message : Fault → String
  | .cutOff reading => "EOF while parsing " ++ reading.word
  | .expectedColon => "expected `:`"
  | .expectedListSeparator => "expected `,` or `]`"
  | .expectedObjectSeparator => "expected `,` or `\x7d`"
  | .expectedLiteral => "expected ident"
  | .expectedValue => "expected value"
  | .invalidEscape => "invalid escape"
  | .invalidNumber => "invalid number"
  | .numberOutOfRange => "number out of range"
  | .controlCharacter =>
    "control character (\\u0000-\\u001F) found while parsing a string"
  | .keyNotText => "key must be a string"
  | .loneSurrogate => "lone leading surrogate in hex escape"
  | .unpairedSurrogate => "unexpected end of hex escape"
  | .trailingComma => "trailing comma"
  | .trailingCharacters => "trailing characters"
  | .nestingTooDeep => "recursion limit exceeded"

end Fault

end ReportRules.Json
