import DebugBridge.Decode.Mismatch

/-!
# Failures of reading JSON texts

A text can break the grammar (`Json.Fault`) or hold a value of the wrong shape (`Mismatch`).
A failure knows how many bytes were left unread when it was noticed, which gives the line and
column to report; a mismatch that no reader has placed yet carries the unread bytes themselves,
because the enclosing record places it after trying to close its bracket.
-/

namespace DebugBridge.Json

/-- A departure from the grammar of JSON. -/
inductive Fault
  | eofList
  | eofObject
  | eofString
  | eofValue
  | expectedColon
  | expectedListCommaOrEnd
  | expectedObjectCommaOrEnd
  | expectedIdent
  | expectedValue
  | invalidEscape
  | invalidNumber
  | numberOutOfRange
  | invalidUnicode
  | controlCharacter
  | keyNotString
  | loneSurrogate
  | trailingComma
  | trailingCharacters
  | unexpectedEndOfHexEscape
  | recursionLimit
deriving DecidableEq

def Fault.message : Fault → String
  | .eofList => "EOF while parsing a list"
  | .eofObject => "EOF while parsing an object"
  | .eofString => "EOF while parsing a string"
  | .eofValue => "EOF while parsing a value"
  | .expectedColon => "expected `:`"
  | .expectedListCommaOrEnd => "expected `,` or `]`"
  | .expectedObjectCommaOrEnd => "expected `,` or `\x7d`"
  | .expectedIdent => "expected ident"
  | .expectedValue => "expected value"
  | .invalidEscape => "invalid escape"
  | .invalidNumber => "invalid number"
  | .numberOutOfRange => "number out of range"
  | .invalidUnicode => "invalid unicode code point"
  | .controlCharacter => "control character (\\u0000-\\u001F) found while parsing a string"
  | .keyNotString => "key must be a string"
  | .loneSurrogate => "lone leading surrogate in hex escape"
  | .trailingComma => "trailing comma"
  | .trailingCharacters => "trailing characters"
  | .unexpectedEndOfHexEscape => "unexpected end of hex escape"
  | .recursionLimit => "recursion limit exceeded"

inductive Failure
  | brokenAt (fault : Fault) (left : Nat)
  | mismatchAt (mismatch : Mismatch) (left : Nat)
  | unplaced (mismatch : Mismatch) (rest : List UInt8)

/-- The line and column after `before`, counted in bytes; a line ends at a line feed. -/
def lineAndColumn (before : List UInt8) : Nat × Nat :=
  (1 + before.count 10, (before.reverse.takeWhile (· != 10)).length)

def positioned (text : List UInt8) (left : Nat) (message : String) : String :=
  let (line, column) := lineAndColumn (text.take (text.length - left))
  message ++ " at line " ++ toString line ++ " column " ++ toString column

/-- The failure in words, for the text that was read. -/
def Failure.message (text : List UInt8) : Failure → String
  | .brokenAt fault left => positioned text left fault.message
  | .mismatchAt mismatch left => positioned text left mismatch.message
  | .unplaced mismatch _ => mismatch.message

/-- The fault was noticed on looking at the next byte, which counts as read. -/
def Failure.onNext (fault : Fault) (rest : List UInt8) : Failure :=
  .brokenAt fault (rest.length - 1)

end DebugBridge.Json
