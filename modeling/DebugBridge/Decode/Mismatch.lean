import DebugBridge.Text.Quoted

/-!
# Values of the wrong shape

The ways in which a well-formed value fails to be what a decoder wants, and their wording.  An
error names what was found and what was expected; texts that the sender wrote appear only between
double quotes or backquotes, which is what redaction relies on.
-/

namespace DebugBridge

/-- What a decoder met. -/
inductive Found
  | null
  | bool (value : Bool)
  | int (value : Int)
  /-- A number that is no integer, already written out. -/
  | float (text : String)
  | string (value : String)
  | sequence
  | map

def Found.describe : Found → String
  | .null => "null"
  | .bool value => "boolean `" ++ toString value ++ "`"
  | .int value => "integer `" ++ toString value ++ "`"
  | .float text => "floating point `" ++ text ++ "`"
  | .string value => "string " ++ Text.quoted value
  | .sequence => "sequence"
  | .map => "map"

inductive Mismatch
  | invalidType (found : Found) (expected : String)
  | invalidValue (found : Found) (expected : String)
  | invalidLength (length : Nat) (expected : String)
  | missingField (name : String)
  | duplicateField (name : String)
  | unknownField (name : String) (allowed : List String)
  | unknownVariant (name : String) (allowed : List String)
  /-- A value of the right type that a type of the domain refuses, in its own words. -/
  | refused (text : String)

namespace Mismatch

def backquoted (name : String) : String := "`" ++ name ++ "`"

/-- The list of names that would have been accepted. -/
def expectedNames : List String → String
  | [] => "nothing"
  | [only] => backquoted only
  | [first, second] => backquoted first ++ " or " ++ backquoted second
  | names => "one of " ++ String.intercalate ", " (names.map backquoted)

def message : Mismatch → String
  | .invalidType found expected => "invalid type: " ++ found.describe ++ ", expected " ++ expected
  | .invalidValue found expected =>
    "invalid value: " ++ found.describe ++ ", expected " ++ expected
  | .invalidLength length expected =>
    "invalid length " ++ toString length ++ ", expected " ++ expected
  | .missingField name => "missing field " ++ backquoted name
  | .duplicateField name => "duplicate field " ++ backquoted name
  | .unknownField name allowed =>
    "unknown field " ++ backquoted name ++ ", expected " ++ expectedNames allowed
  | .unknownVariant name allowed =>
    "unknown variant " ++ backquoted name ++ ", expected " ++ expectedNames allowed
  | .refused text => text

end Mismatch

end DebugBridge
