import CatalogImport.Decimal.Digits

/-!
# Faults in JSON text

What is wrong with a text that is not JSON, and where.  A reader takes bytes off the front of a
text, so it knows a place by the number of bytes it has not seen; the line and the column follow
from the text as a whole.
-/

namespace CatalogImport.Json

open CatalogImport.Decimal

/-- What is wrong. -/
inductive Cause where
  | endInValue
  | endInList
  | endInObject
  | endInString
  | expectedValue
  | expectedWord
  | expectedColon
  | expectedCommaInList
  | expectedCommaInObject
  | keyNotString
  | trailingComma
  | trailingCharacters
  | invalidNumber
  | numberOutOfRange
  | controlCharacter
  | invalidEscape
  | endOfSurrogates
  | loneSurrogate
  | invalidCodePoint
  | tooDeep
  /-- The text is JSON, but not of the shape that was asked for. -/
  | shape (message : String)
  deriving DecidableEq

/-- The words for what is wrong. -/
def Cause.message : Cause → String
  | .endInValue => "EOF while parsing a value"
  | .endInList => "EOF while parsing a list"
  | .endInObject => "EOF while parsing an object"
  | .endInString => "EOF while parsing a string"
  | .expectedValue => "expected value"
  | .expectedWord => "expected ident"
  | .expectedColon => "expected `:`"
  | .expectedCommaInList => "expected `,` or `]`"
  | .expectedCommaInObject => "expected `,` or `\x7d`"
  | .keyNotString => "key must be a string"
  | .trailingComma => "trailing comma"
  | .trailingCharacters => "trailing characters"
  | .invalidNumber => "invalid number"
  | .numberOutOfRange => "number out of range"
  | .controlCharacter => "control character (\\u0000-\\u001F) found while parsing a string"
  | .invalidEscape => "invalid escape"
  | .endOfSurrogates => "unexpected end of hex escape"
  | .loneSurrogate => "lone leading surrogate in hex escape"
  | .invalidCodePoint => "invalid unicode code point"
  | .tooDeep => "recursion limit exceeded"
  | .shape message => message

/-- What is wrong, and how many bytes of the text were not seen when it was noticed. -/
structure Fault where
  cause : Cause
  unseen : Nat
  deriving DecidableEq

/-- A fault noticed when everything before `rest` has been taken. -/
def Fault.taken (cause : Cause) (rest : List UInt8) : Fault := ⟨cause, rest.length⟩

/-- A fault noticed by looking at the first byte of `rest`, if there is one. -/
def Fault.peeked (cause : Cause) (rest : List UInt8) : Fault := ⟨cause, rest.length - 1⟩

/-- The line and the column reached by taking bytes: lines count from one, and columns are the
bytes taken since the last line feed. -/
def lineAndColumn (bytes : List UInt8) : Nat × Nat :=
  bytes.foldl (fun at_ b => if b = 10 then (at_.1 + 1, 0) else (at_.1, at_.2 + 1)) (1, 0)

/-- The fault in words, with its place in a text. -/
def Fault.message (f : Fault) (text : List UInt8) : String :=
  let (line, column) := lineAndColumn (text.take (text.length - f.unseen))
  f.cause.message ++ " at line " ++ numeral line ++ " column " ++ numeral column

end CatalogImport.Json
