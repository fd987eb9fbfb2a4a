import DebugBridge.Decode.Mismatch
import DebugBridge.Json.Value

/-!
# Decoders for several formats

A type of the domain says once how it is decoded, in terms of the operations of `Format`; each
format (a JSON value, a JSON text, a TOML document) supplies those operations and places its own
errors.  Records decode from objects, by name, and from lists, by position.
-/

namespace DebugBridge

/-- A field of a record: decoding it gives a change of the record. -/
structure Field (F : Type → Type) (Record : Type) where
  name : String
  required : Bool := false
  update : F (Record → Record)

/-- The operations of decoders that work over a format. -/
class Format (F : Type → Type) where
  map : {α β : Type} → (α → β) → F α → F β
  boolean : F Bool
  /-- An integer from `low` to `high`. -/
  integer : (expected : String) → (low high : Int) → F Int
  text : (expected : String) → F String
  optional : {α : Type} → F α → F (Option α)
  /-- Applies a check whose refusal has words of its own. -/
  refine : {α β : Type} → (α → Except String β) → F α → F β
  /-- One of a few names. -/
  choice : (names : List String) → F String
  /-- A record with these fields over its defaults; `closed` records refuse other names. -/
  record : {Record : Type} → (name : String) → (closed : Bool) → List (Field F Record) →
    (defaults : Record) → F Record

/-- A format that can hold any JSON value. -/
class JsonFormat (F : Type → Type) extends Format F where
  anything : F Json

namespace Format

variable {F : Type → Type} [Format F]

def int64 : F Int := integer "i64" (-0x8000000000000000) 0x7fffffffffffffff

def nat64 : F Nat := map Int.toNat (integer "u64" 0 0xffffffffffffffff)

def byte : F Nat := map Int.toNat (integer "u8" 0 255)

def string : F String := text "a string"

/-- A field that keeps its default when it is absent. -/
def field {Record α : Type} (name : String) (value : F α) (set : α → Record → Record) :
    Field F Record :=
  { name := name, update := map set value }

/-- A field that has to be present. -/
def requiredField {Record α : Type} (name : String) (value : F α) (set : α → Record → Record) :
    Field F Record :=
  { name := name, required := true, update := map set value }

end Format

/-- What a decoder of the record called `name` expects. -/
def expectedRecord (name : String) : String := "struct " ++ name

/-- What a decoder of a record expects of a list that is too short. -/
def expectedElements (name : String) (count : Nat) : String :=
  "struct " ++ name ++ " with " ++ toString count ++ (if count = 1 then " element" else " elements")

/-- The first required field that is not among the names seen. -/
def missingRequired {F : Type → Type} {Record : Type} (fields : List (Field F Record))
    (seen : List String) : Option String :=
  (fields.find? fun field => field.required && !seen.contains field.name).map (·.name)

def findField {F : Type → Type} {Record : Type} (fields : List (Field F Record))
    (name : String) : Option (Field F Record) :=
  fields.find? fun field => field.name == name

/-- The integer of a number, if it lies in the range. -/
def Json.Number.inRange (expected : String) (low high : Int) (floatText : Binary64 → String) :
    Json.Number → Except Mismatch Int
  | .int value =>
    if low ≤ value ∧ value ≤ high then .ok value
    else .error (.invalidValue (.int value) expected)
  | .float value => .error (.invalidType (.float (floatText value)) expected)

end DebugBridge
