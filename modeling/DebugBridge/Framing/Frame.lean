import DebugBridge.Decode.OfJson
import DebugBridge.Json.Print
import DebugBridge.Json.Read
import DebugBridge.Protocol.Message
import DebugBridge.Redaction.Quotes
import DebugBridge.Text.Blank
import DebugBridge.Text.Quoted
import DebugBridge.Text.Utf8

/-!
# Frames

On the wire a message is a block of header lines, one of which tells the length of the body, then a
blank line and the body, a JSON text.  The reader works on what has arrived so far: it says what
the bytes hold, how many of them are used up, or that they do not suffice yet.
-/

namespace DebugBridge

/-- Why reading or writing a frame failed. -/
inductive FrameFault
  | io (text : String)
  | json (text : String)
  | protocol (text : String)
deriving DecidableEq

def FrameFault.message : FrameFault → String
  | .io text => "io error: " ++ text
  | .json text => "json error: " ++ text
  | .protocol text => "dap protocol error: " ++ text

/-- What follows the bytes that have arrived. -/
inductive StreamEnd
  /-- More bytes may come. -/
  | unfinished
  | closed
  /-- Reading on fails. -/
  | broken
deriving DecidableEq, Repr

namespace Framing

def maxMessageBytes : Nat := 16 * 1024 * 1024

def maxHeaderLineBytes : Nat := 8192

def connectionReset : FrameFault := .io "connection reset"

def earlyEnd : FrameFault := .io "early eof"

def brokenPipe : FrameFault := .io "broken pipe"

/-- The fault of an unusable JSON body; its text quotes nothing of it. -/
def jsonFault (text : String) : FrameFault := .json (Redaction.json text)

/-! ## Lines -/

inductive LineResult
  /-- A line with its line feed, unless the stream ended first. -/
  | line (bytes : List UInt8) (rest : List UInt8)
  | finished
  | failed (fault : FrameFault) (rest : List UInt8)
  | waiting
deriving DecidableEq

def tooLong : FrameFault :=
  .protocol ("header line exceeds maximum size (" ++ toString maxHeaderLineBytes ++ " bytes)")

/-- A line feed among the first `window` bytes ends the line; its length includes the feed. -/
def lineLength? : (window : Nat) → List UInt8 → Option Nat
  | 0, _ => none
  | _ + 1, [] => none
  | window + 1, b :: rest => if b = 0x0a then some 1 else (lineLength? window rest).map (· + 1)

/-- The next line.  At most one byte more than a line may have is looked at. -/
def readLine (input : List UInt8) (ending : StreamEnd) : LineResult :=
  match lineLength? (maxHeaderLineBytes + 1) input with
  | some length =>
    if maxHeaderLineBytes < length then .failed tooLong (input.drop length)
    else .line (input.take length) (input.drop length)
  | none =>
    if maxHeaderLineBytes < input.length then
      .failed tooLong (input.drop (maxHeaderLineBytes + 1))
    else match ending with
      | .unfinished => .waiting
      | .closed => if input.isEmpty then .finished else .line input []
      | .broken => .failed connectionReset []

/-! ## Headers -/

/-- Why a text is no length. -/
inductive LengthFault
  | empty
  | invalidDigit
  | tooLarge
deriving DecidableEq

def LengthFault.message : LengthFault → String
  | .empty => "cannot parse integer from empty string"
  | .invalidDigit => "invalid digit found in string"
  | .tooLarge => "number too large to fit in target type"

/-- The greatest length that can be written. -/
def greatestLength : Nat := 0xffffffffffffffff

def readDigits : (value : Nat) → List Char → Except LengthFault Nat
  | value, [] => .ok value
  | value, c :: rest =>
    if c.isDigit then
      let value := 10 * value + (c.toNat - '0'.toNat)
      if greatestLength < value then .error .tooLarge else readDigits value rest
    else .error .invalidDigit

/-- A length in decimal digits, perhaps after a plus sign. -/
def readLength : List Char → Except LengthFault Nat
  | [] => .error .empty
  | ['+'] => .error .invalidDigit
  | '+' :: digits => readDigits 0 digits
  | digits => readDigits 0 digits

def isLineEnd (c : Char) : Bool := c == '\r' || c == '\n'

def asciiLower (text : List Char) : List Char := text.map Char.toLower

def lengthHeader : List Char := "content-length".toList

/-- The length in the value of a header. -/
def checkLength (value : List Char) : Except FrameFault Nat :=
  match readLength value with
  | .error fault =>
    .error (.protocol ("invalid Content-Length " ++ Text.quoted (String.ofList value) ++ ": "
      ++ fault.message))
  | .ok length =>
    if maxMessageBytes < length then
      .error (.protocol ("Content-Length " ++ toString length ++ " exceeds maximum allowed size "
        ++ toString maxMessageBytes))
    else .ok length

/-- What a line of the header block says. -/
inductive HeaderLine
  | blank
  | length (bytes : Nat)
  | other

/-- Reads a line without its end: a name, a colon and a value. -/
def interpretHeader (line : List Char) : Except FrameFault HeaderLine :=
  match line.dropWhile (· != ':') with
  | _ :: value =>
    if asciiLower (Text.trimChars (line.takeWhile (· != ':'))) = lengthHeader then
      (checkLength (Text.trimChars value)).map .length
    else .ok .other
  | [] => .ok .other

def interpretLine (bytes : List UInt8) : Except FrameFault HeaderLine :=
  match Text.decodeUtf8? bytes with
  | none => .error (.protocol "header line is not UTF-8")
  | some text =>
    let line := Text.dropEndWhile isLineEnd text.toList
    if line.isEmpty then .ok .blank else interpretHeader line

/-- What is known of the block read so far. -/
structure Block where
  /-- Whether it has begun; blank lines before it are skipped. -/
  begun : Bool := false
  length : Option Nat := none

inductive BlockResult
  | body (length : Nat) (rest : List UInt8)
  | finished
  | failed (fault : FrameFault) (rest : List UInt8)
  | waiting
deriving DecidableEq

/-- Reads lines up to the blank one that ends the block; `fuel` is more than the bytes left. -/
def readBlock : (fuel : Nat) → Block → List UInt8 → StreamEnd → BlockResult
  | 0, _, _, _ => .waiting
  | fuel + 1, block, input, ending =>
    match readLine input ending with
    | .waiting => .waiting
    | .failed fault rest => .failed fault rest
    | .finished =>
      if block.begun then .failed (.protocol "stream ended inside a header block") []
      else .finished
    | .line bytes rest =>
      match interpretLine bytes with
      | .error fault => .failed fault rest
      | .ok .blank =>
        if !block.begun then readBlock fuel block rest ending
        else match block.length with
          | some length => .body length rest
          | none => .failed (.protocol "missing Content-Length header") rest
      | .ok (.length length) =>
        readBlock fuel { begun := true, length := some length } rest ending
      | .ok .other => readBlock fuel { block with begun := true } rest ending

/-! ## Frames -/

inductive ReadResult (α : Type)
  | value (value : α) (rest : List UInt8)
  /-- The stream ended between frames. -/
  | finished
  | failed (fault : FrameFault) (rest : List UInt8)
  | waiting

/-- The value in a body. -/
def readBody (body : List UInt8) : Except FrameFault Json :=
  match Json.parse body with
  | .ok value => .ok value
  | .error failure => .error (jsonFault (failure.message body))

/-- Reads one frame. -/
def nextValue (input : List UInt8) (ending : StreamEnd) : ReadResult Json :=
  match readBlock (input.length + 1) {} input ending with
  | .waiting => .waiting
  | .finished => .finished
  | .failed fault rest => .failed fault rest
  | .body length rest =>
    if length ≤ rest.length then
      match readBody (rest.take length) with
      | .ok value => .value value (rest.drop length)
      | .error fault => .failed fault (rest.drop length)
    else match ending with
      | .unfinished => .waiting
      | .closed => .failed earlyEnd []
      | .broken => .failed connectionReset []

/-- Reads one frame that holds a request. -/
def nextRequest (input : List UInt8) (ending : StreamEnd) : ReadResult Request :=
  match nextValue input ending with
  | .waiting => .waiting
  | .finished => .finished
  | .failed fault rest => .failed fault rest
  | .value value rest =>
    match JsonDecoder.run Request.decoder value with
    | .ok request => .value request rest
    | .error mismatch => .failed (jsonFault mismatch.message) rest

/-- The frame around a body. -/
def frame (body : List UInt8) : List UInt8 :=
  Text.encodeUtf8 ("Content-Length: " ++ toString body.length ++ "\r\n\r\n") ++ body

/-- The frame of a value. -/
def ofValue (value : Json) : List UInt8 := frame value.bytes

end Framing

end DebugBridge
