/-!
# Faults of a JSON text

Why a text stops being JSON at some character, or at its end. A text that merely ends too early is
unfinished; every other fault makes it malformed.
-/

namespace TxGateway.Json

/-- Why a text is no JSON text. -/
inductive Fault where
  | endInArray
  | endInObject
  | endInString
  | endInValue
  | endInWord
  | endInNumber
  | colonExpected
  | itemEndExpected
  | memberEndExpected
  | wordExpected
  | valueExpected
  | nameExpected
  | invalidEscape
  | invalidNumber
  | numberOutOfRange
  | controlCharacter
  | loneSurrogate
  | unpairedSurrogate
  | trailingComma
  | trailingCharacters
  | tooDeep
deriving DecidableEq, Repr

namespace Fault

/-- Whether the text is unfinished: it could be continued to a JSON text. -/
def isEnd : Fault → Bool
  | endInArray | endInObject | endInString | endInValue | endInWord | endInNumber => true
  | _ => false

/-- The fault in words. -/
def message : Fault → String
  | endInArray => "EOF while parsing a list"
  | endInObject => "EOF while parsing an object"
  | endInString => "EOF while parsing a string"
  | endInValue | endInWord | endInNumber => "EOF while parsing a value"
  | colonExpected => "expected `:`"
  | itemEndExpected => "expected `,` or `]`"
  | memberEndExpected => "expected `,` or `\x7d`"
  | wordExpected => "expected ident"
  | valueExpected => "expected value"
  | nameExpected => "key must be a string"
  | invalidEscape => "invalid escape"
  | invalidNumber => "invalid number"
  | numberOutOfRange => "number out of range"
  | controlCharacter => "control character (\\u0000-\\u001F) found while parsing a string"
  | loneSurrogate => "lone leading surrogate in hex escape"
  | unpairedSurrogate => "unexpected end of hex escape"
  | trailingComma => "trailing comma"
  | trailingCharacters => "trailing characters"
  | tooDeep => "recursion limit exceeded"

end Fault

end TxGateway.Json
