import DebugBridge.Decimal.Binary64

/-!
# TOML values

The value of a document is a table.  Tables keep their entries in the order in which the document
defines them.
-/

namespace DebugBridge

inductive Toml
  | string (value : String)
  | integer (value : Int)
  | float (value : Binary64)
  | boolean (value : Bool)
  /-- A date, a time or both; nothing here asks which. -/
  | datetime
  | array (items : List Toml)
  | table (entries : List (String × Toml))
deriving Inhabited

namespace Toml

/-- The name of a kind of value. -/
def kindName : Toml → String
  | .string _ => "string"
  | .integer _ => "integer"
  | .float _ => "float"
  | .boolean _ => "boolean"
  | .datetime => "datetime"
  | .array _ => "array"
  | .table _ => "table"

end Toml

end DebugBridge
