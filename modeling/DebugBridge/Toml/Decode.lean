import DebugBridge.Decimal.Notation
import DebugBridge.Decode.Format
import DebugBridge.Toml.Value

/-!
# Decoding TOML values

The entries of a table are decoded in the order of the document, and the first mismatch counts.  An
array stands for a record by position; what it holds beyond the fields is ignored.
-/

namespace DebugBridge

/-- A decoder of TOML values. -/
structure TomlDecoder (α : Type) where
  run : Toml → Except Mismatch α

namespace TomlDecoder

/-- What kind of value a decoder met.  Dates appear as maps. -/
def found : Toml → Found
  | .string value => .string value
  | .integer value => .int value
  | .float value => .float value.positional
  | .boolean value => .bool value
  | .datetime => .map
  | .array _ => .sequence
  | .table _ => .map

def fail {α : Type} (expected : String) (value : Toml) : Except Mismatch α :=
  .error (.invalidType (found value) expected)

/-- The name of the single entry of the map that a date appears as. -/
def datetimeField : String := "$__toml_private_datetime"

def decodeEntries {Record : Type} (closed : Bool) (fields : List (Field TomlDecoder Record)) :
    List (String × Toml) → Record → Except Mismatch Record
  | [], record => .ok record
  | (name, value) :: entries, record =>
    match findField fields name with
    | some field =>
      match field.update.run value with
      | .ok change => decodeEntries closed fields entries (change record)
      | .error mismatch => .error mismatch
    | none =>
      if closed then .error (.unknownField name (fields.map (·.name)))
      else decodeEntries closed fields entries record

def decodeTable {Record : Type} (closed : Bool) (fields : List (Field TomlDecoder Record))
    (entries : List (String × Toml)) (defaults : Record) : Except Mismatch Record :=
  match decodeEntries closed fields entries defaults with
  | .error mismatch => .error mismatch
  | .ok record =>
    match missingRequired fields (entries.map (·.1)) with
    | some missing => .error (.missingField missing)
    | none => .ok record

/-- Decodes items by position; `done` is their number so far. -/
def decodeItems {Record : Type} (name : String) (total : Nat) :
    List (Field TomlDecoder Record) → (done : Nat) → List Toml → Record → Except Mismatch Record
  | [], _, _, record => .ok record
  | field :: fields, done, [], record =>
    if field.required then .error (.invalidLength done (expectedElements name total))
    else decodeItems name total fields (done + 1) [] record
  | field :: fields, done, value :: rest, record =>
    match field.update.run value with
    | .ok change => decodeItems name total fields (done + 1) rest (change record)
    | .error mismatch => .error mismatch

def decodeRecord {Record : Type} (name : String) (closed : Bool)
    (fields : List (Field TomlDecoder Record)) (defaults : Record) :
    Toml → Except Mismatch Record
  | .table entries => decodeTable closed fields entries defaults
  | .datetime => decodeTable closed fields [(datetimeField, .string "")] defaults
  | .array items => decodeItems name fields.length fields 0 items defaults
  | value => fail (expectedRecord name) value

/-- A name, or a table whose one entry has that name and is empty. -/
def decodeChoice (names : List String) : Toml → Except Mismatch String
  | .string value => known value
  | .table [(name, value)] => do
    let name ← known name
    match value with
    | .table [] => .ok name
    | .table _ => .error (.refused "expected empty table")
    | .array [] => .ok name
    | .array _ => .error (.refused "expected empty array")
    | value => .error (.refused ("expected table, found " ++ value.kindName))
  | .table [] => .error (.refused "wanted exactly 1 element, found 0 elements")
  | .table _ => .error (.refused "wanted exactly 1 element, more than 1 element")
  | _ => .error (.refused "wanted string or table")
where
  known (name : String) : Except Mismatch String :=
    if names.contains name then .ok name else .error (.unknownVariant name names)

instance : Format TomlDecoder where
  map change decoder := ⟨fun value => (decoder.run value).map change⟩
  boolean := ⟨fun
    | .boolean value => .ok value
    | value => fail "a boolean" value⟩
  integer expected low high := ⟨fun
    | .integer value => Json.Number.inRange expected low high Binary64.positional (.int value)
    | .float value => Json.Number.inRange expected low high Binary64.positional (.float value)
    | value => fail expected value⟩
  text expected := ⟨fun
    | .string value => .ok value
    | value => fail expected value⟩
  optional decoder := ⟨fun value => (decoder.run value).map some⟩
  refine check decoder := ⟨fun value => do
    let inner ← decoder.run value
    match check inner with
    | .ok outer => .ok outer
    | .error text => .error (.refused text)⟩
  choice names := ⟨decodeChoice names⟩
  record name closed fields defaults := ⟨decodeRecord name closed fields defaults⟩

end TomlDecoder

end DebugBridge
