import DebugBridge.Decimal.Notation
import DebugBridge.Decode.Format
import DebugBridge.Json.Read

/-!
# Decoding JSON texts

Decodes while it reads, so that the first fault of either kind counts.  A scalar of the wrong type
is placed behind it, a list or object before it.  A mismatch of a whole record (a field missing or
given twice) is placed where the record's bracket would close.
-/

namespace DebugBridge

/-- A decoder that reads a JSON text. -/
structure TextDecoder (α : Type) where
  run : Json.Reader α

namespace TextDecoder

open Json

/-- The failure for a value of the wrong type that starts here. -/
def wrongType (expected : String) (input : List UInt8) : Failure :=
  match input with
  | [] => .brokenAt .eofValue 0
  | b :: rest =>
    let placed {α : Type} (found : α → Found) (result : Result α) : Failure :=
      match result with
      | .error failure => failure
      | .ok (value, rest) => .mismatchAt (.invalidType (found value) expected) rest.length
    let ofNumber : Number → Found
      | .int value => .int value
      | .float value => .float value.compact
    if b = 0x6e then placed (fun _ => .null) (readIdent afterN rest)
    else if b = 0x74 then placed (fun _ => .bool true) (readIdent afterT rest)
    else if b = 0x66 then placed (fun _ => .bool false) (readIdent afterF rest)
    else if b = minus then placed ofNumber (readNumber false rest)
    else if isDigit b then placed ofNumber (readNumber true input)
    else if b = quoteMark then placed .string (readString rest)
    else if b = openBracket then .mismatchAt (.invalidType .sequence expected) input.length
    else if b = openBrace then .mismatchAt (.invalidType .map expected) input.length
    else .onNext .expectedValue input

def readBoolean (input : List UInt8) : Result Bool :=
  match skipBlanks input with
  | 0x74 :: rest => (readIdent afterT rest).map fun r => (true, r.2)
  | 0x66 :: rest => (readIdent afterF rest).map fun r => (false, r.2)
  | input => .error (wrongType "a boolean" input)

def readInteger (expected : String) (low high : Int) (input : List UInt8) : Result Int :=
  let check : Result Number → Result Int
    | .error failure => .error failure
    | .ok (read, rest) =>
      match read.inRange expected low high Binary64.compact with
      | .ok value => .ok (value, rest)
      | .error mismatch => .error (.mismatchAt mismatch rest.length)
  match skipBlanks input with
  | [] => .error (.brokenAt .eofValue 0)
  | b :: rest =>
    if b = minus then check (readNumber false rest)
    else if isDigit b then check (readNumber true (b :: rest))
    else .error (wrongType expected (b :: rest))

def readText (expected : String) (input : List UInt8) : Result String :=
  match skipBlanks input with
  | 0x22 :: rest => readString rest
  | input => .error (wrongType expected input)

def readOptional {α : Type} (reader : Reader α) : Reader (Option α) := fun depth fuel input =>
  match skipBlanks input with
  | 0x6e :: rest => (readIdent afterN rest).map fun r => (none, r.2)
  | input => (reader depth fuel input).map fun r => (some r.1, r.2)

/-- How much is left once the closing bracket has been tried. -/
def leftAfter (close : List UInt8 → Result Unit) (isClosing : UInt8 → Bool) (rest : List UInt8) :
    Nat :=
  match close rest with
  | .ok ((), rest) => rest.length
  | .error _ =>
    match skipBlanks rest with
    | b :: tail => if isClosing b then (skipBlanks tail).length else (b :: tail).length
    | [] => 0

/-- Places a mismatch of a record read from an object. -/
def placeInObject (failure : Failure) : Failure :=
  match failure with
  | .unplaced mismatch rest => .mismatchAt mismatch (leftAfter endObject (fun _ => false) rest)
  | placed => placed

/-- Places a mismatch of a record read from a list; a comma there is read over. -/
def placeInList (failure : Failure) : Failure :=
  match failure with
  | .unplaced mismatch rest => .mismatchAt mismatch (leftAfter endList (· == comma) rest)
  | placed => placed

/-- Reads the members of a record up to its brace. -/
def readFields {Record : Type} (closed : Bool) (fields : List (Field TextDecoder Record))
    (depth loops : Nat) :
    Nat → Bool → List String → Record → List UInt8 → Result (List String × Record)
  | 0, _, _, _, _ => .error (.brokenAt .eofObject 0)
  | fuel + 1, first, seen, record, input =>
    match nextMember first input with
    | .error failure => .error failure
    | .ok (false, rest) => .ok ((seen, record), rest)
    | .ok (true, rest) =>
      match readString rest.tail with
      | .error failure => .error failure
      | .ok (name, rest) =>
        match findField fields name with
        | some field =>
          if seen.contains name then .error (.unplaced (.duplicateField name) rest)
          else match readColon rest with
            | .error failure => .error failure
            | .ok ((), rest) =>
              match field.update.run depth loops rest with
              | .error failure => .error failure
              | .ok (change, rest) =>
                readFields closed fields depth loops fuel false (name :: seen) (change record) rest
        | none =>
          if closed then .error (.unplaced (.unknownField name (fields.map (·.name))) rest)
          else match readColon rest with
            | .error failure => .error failure
            | .ok ((), rest) =>
              match skip rest with
              | .error failure => .error failure
              | .ok ((), rest) =>
                readFields closed fields depth loops fuel false seen record rest

/-- Reads the fields of a record by position. -/
def readPositions {Record : Type} (name : String) (total depth loops : Nat) :
    List (Field TextDecoder Record) → Nat → Record → List UInt8 → Result Record
  | [], _, record, input => .ok (record, input)
  | field :: fields, done, record, input =>
    match nextItem (done == 0) input with
    | .error failure => .error failure
    | .ok (false, rest) =>
      if field.required then
        .error (.unplaced (.invalidLength done (expectedElements name total)) rest)
      else readPositions name total depth loops fields (done + 1) record rest
    | .ok (true, rest) =>
      match field.update.run depth loops rest with
      | .error failure => .error failure
      | .ok (change, rest) =>
        readPositions name total depth loops fields (done + 1) (change record) rest

def readRecord {Record : Type} (name : String) (closed : Bool)
    (fields : List (Field TextDecoder Record)) (defaults : Record) : Reader Record :=
  fun depth fuel input =>
    match skipBlanks input with
    | [] => .error (.brokenAt .eofValue 0)
    | b :: rest =>
      if b = openBracket then
        match depth with
        | 0 => .error (.onNext .recursionLimit (b :: rest))
        | depth + 1 =>
          match readPositions name fields.length depth fuel fields 0 defaults rest with
          | .error failure => .error (placeInList failure)
          | .ok (record, rest) => (endList rest).map fun r => (record, r.2)
      else if b = openBrace then
        match depth with
        | 0 => .error (.onNext .recursionLimit (b :: rest))
        | depth + 1 =>
          match readFields closed fields depth fuel fuel true [] defaults rest with
          | .error failure => .error (placeInObject failure)
          | .ok ((seen, record), rest) =>
            match missingRequired fields seen with
            | some missing => .error (placeInObject (.unplaced (.missingField missing) rest))
            | none => (endObject rest).map fun r => (record, r.2)
      else .error (wrongType (expectedRecord name) (b :: rest))

/-- A name; an object form is not read from texts. -/
def readChoice (names : List String) (input : List UInt8) : Result String :=
  match readText "string or map" input with
  | .error failure => .error failure
  | .ok (name, rest) =>
    if names.contains name then .ok (name, rest)
    else .error (.mismatchAt (.unknownVariant name names) rest.length)

instance : JsonFormat TextDecoder where
  map change decoder :=
    ⟨fun depth fuel input => (decoder.run depth fuel input).map fun r => (change r.1, r.2)⟩
  boolean := ⟨fun _ _ => readBoolean⟩
  integer expected low high := ⟨fun _ _ => readInteger expected low high⟩
  text expected := ⟨fun _ _ => readText expected⟩
  optional decoder := ⟨readOptional decoder.run⟩
  refine check decoder := ⟨fun depth fuel input =>
    match decoder.run depth fuel input with
    | .error failure => .error failure
    | .ok (inner, rest) =>
      match check inner with
      | .ok outer => .ok (outer, rest)
      | .error text => .error (.unplaced (.refused text) rest)⟩
  choice names := ⟨fun _ _ => readChoice names⟩
  record name closed fields defaults := ⟨readRecord name closed fields defaults⟩
  anything := ⟨readValue⟩

/-- Decodes a whole text. -/
def decode {α : Type} (decoder : TextDecoder α) (text : List UInt8) : Except Failure α :=
  readWhole decoder.run text

end TextDecoder

end DebugBridge
