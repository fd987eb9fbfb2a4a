import DebugBridge.Decimal.Notation
import DebugBridge.Decode.Format

/-!
# Decoding JSON values

The members of an object are decoded in ascending order of their names, the items of a list in
order, and the first mismatch counts.
-/

namespace DebugBridge

/-- A decoder of JSON values. -/
structure JsonDecoder (α : Type) where
  run : Json → Except Mismatch α

namespace JsonDecoder

/-- What kind of value a decoder met. -/
def found : Json → Found
  | .null => .null
  | .bool value => .bool value
  | .number (.int value) => .int value
  | .number (.float value) => .float value.compact
  | .string value => .string value
  | .array _ => .sequence
  | .object _ => .map

def fail {α : Type} (expected : String) (value : Json) : Except Mismatch α :=
  .error (.invalidType (found value) expected)

def decodeMembers {Record : Type} (closed : Bool) (fields : List (Field JsonDecoder Record)) :
    List (String × Json) → Record → Except Mismatch Record
  | [], record => .ok record
  | (name, value) :: members, record =>
    match findField fields name with
    | some field =>
      match field.update.run value with
      | .ok change => decodeMembers closed fields members (change record)
      | .error mismatch => .error mismatch
    | none =>
      if closed then .error (.unknownField name (fields.map (·.name)))
      else decodeMembers closed fields members record

/-- Decodes items by position; `done` is their number so far. -/
def decodeItems {Record : Type} (name : String) (total : Nat) :
    List (Field JsonDecoder Record) → Nat → List Json → Record → Except Mismatch Record
  | [], done, rest, record =>
    if rest.isEmpty then .ok record
    else .error (.invalidLength (done + rest.length) "fewer elements in array")
  | field :: fields, done, [], record =>
    if field.required then .error (.invalidLength done (expectedElements name total))
    else decodeItems name total fields (done + 1) [] record
  | field :: fields, done, value :: rest, record =>
    match field.update.run value with
    | .ok change => decodeItems name total fields (done + 1) rest (change record)
    | .error mismatch => .error mismatch

/-- Any number of items, all decoded alike. -/
def list {α : Type} (item : JsonDecoder α) : JsonDecoder (List α) where
  run
    | .array items => items.mapM item.run
    | value => fail "a sequence" value

def decodeRecord {Record : Type} (name : String) (closed : Bool)
    (fields : List (Field JsonDecoder Record)) (defaults : Record) :
    Json → Except Mismatch Record
  | .object members =>
    match decodeMembers closed fields members defaults with
    | .error mismatch => .error mismatch
    | .ok record =>
      match missingRequired fields (members.map (·.1)) with
      | some missing => .error (.missingField missing)
      | none => .ok record
  | .array items => decodeItems name fields.length fields 0 items defaults
  | value => fail (expectedRecord name) value

/-- A name, or an object with that name and null. -/
def decodeChoice (names : List String) : Json → Except Mismatch String
  | .string value => known value
  | .object [(name, value)] => do
    let name ← known name
    match value with
    | .null => .ok name
    | value => fail "unit" value
  | .object _ => .error (.invalidValue .map "map with a single key")
  | value => fail "string or map" value
where
  known (name : String) : Except Mismatch String :=
    if names.contains name then .ok name else .error (.unknownVariant name names)

instance : JsonFormat JsonDecoder where
  map change decoder := ⟨fun value => (decoder.run value).map change⟩
  boolean := ⟨fun
    | .bool value => .ok value
    | value => fail "a boolean" value⟩
  integer expected low high := ⟨fun
    | .number value => value.inRange expected low high Binary64.compact
    | value => fail expected value⟩
  text expected := ⟨fun
    | .string value => .ok value
    | value => fail expected value⟩
  optional decoder := ⟨fun
    | .null => .ok none
    | value => (decoder.run value).map some⟩
  refine check decoder := ⟨fun value => do
    let inner ← decoder.run value
    match check inner with
    | .ok outer => .ok outer
    | .error text => .error (.refused text)⟩
  choice names := ⟨decodeChoice names⟩
  record name closed fields defaults := ⟨decodeRecord name closed fields defaults⟩
  anything := ⟨.ok⟩

end JsonDecoder

end DebugBridge
