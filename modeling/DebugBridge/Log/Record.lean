import DebugBridge.Json.Print
import DebugBridge.Text.Quoted

/-!
# Log records

A record has a level, a target (the part of the program it speaks for) and named fields; the field
`message` is its text.
-/

namespace DebugBridge

inductive LogLevel
  | trace
  | debug
  | info
  | warn
  | error
deriving DecidableEq, Inhabited, Repr

namespace LogLevel

/-- More important levels are greater. -/
def rank : LogLevel → Nat
  | .trace => 0
  | .debug => 1
  | .info => 2
  | .warn => 3
  | .error => 4

/-- The name in log lines. -/
def label : LogLevel → String
  | .trace => "TRACE"
  | .debug => "DEBUG"
  | .info => "INFO"
  | .warn => "WARN"
  | .error => "ERROR"

end LogLevel

/-- The value of a field. -/
inductive LogValue
  /-- A text that is shown as it is. -/
  | shown (text : String)
  /-- A text that lines show between quotes. -/
  | quoted (text : String)
  | int (value : Int)
  | bool (value : Bool)
deriving DecidableEq

namespace LogValue

def line : LogValue → String
  | .shown text => text
  | .quoted text => Text.quoted text
  | .int value => toString value
  | .bool value => toString value

def toJson : LogValue → Json
  | .shown text => .string text
  | .quoted text => .string text
  | .int value => .int value
  | .bool value => .bool value

end LogValue

structure LogRecord where
  level : LogLevel
  target : String
  fields : List (String × LogValue)
deriving DecidableEq

/-- The target of the adapter's own records. -/
def adapterTarget : String := "mta_dap"

/-- The target of records of the traffic with the editor. -/
def protocolTarget : String := "mta_dap::protocol"

namespace LogRecord

/-- A record of the adapter itself. -/
def adapter (level : LogLevel) (message : String) (fields : List (String × LogValue)) :
    LogRecord :=
  { level, target := adapterTarget, fields := ("message", .shown message) :: fields }

/-- The value of a field; of several the last one counts. -/
def field? (record : LogRecord) (name : String) : Option LogValue :=
  Json.lookup name record.fields.reverse

/-- The text of a record; empty when it has none. -/
def message (record : LogRecord) : String :=
  ((record.field? "message").map LogValue.line).getD ""

def fieldText (field : String × LogValue) : String :=
  if field.1 = "message" then field.2.line else field.1 ++ "=" ++ field.2.line

/-- The record as a line, without its time. -/
def line (record : LogRecord) : String :=
  record.level.label ++ " " ++ record.target ++ ": "
    ++ String.intercalate " " (record.fields.map fieldText)

/-- The record as an object, without its time. -/
def toJson (record : LogRecord) : Json :=
  .ofMembers [
    ("level", .string record.level.label),
    ("target", .string record.target),
    ("fields", .ofMembers (record.fields.map fun field => (field.1, field.2.toJson)))]

end LogRecord

end DebugBridge
