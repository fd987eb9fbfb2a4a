import DebugBridge.Log.Record

/-!
# Records of panics

A panic is logged with the text it carries and the place it came from, so that it reaches the log
file, too.
-/

namespace DebugBridge

/-- What a panic carries. -/
inductive PanicPayload
  | text (text : String)
  /-- Something that is no text. -/
  | other

namespace PanicPayload

def message : PanicPayload → String
  | .text content => content
  | .other => "<non-string panic payload>"

def unknownLocation : String := "<unknown>"

def record (payload : PanicPayload) (location : Option String) : LogRecord :=
  { level := .error, target := "mta_dap::panic"
    fields := [
      ("message", .shown "adapter panicked"),
      ("message", .shown payload.message),
      ("location", .quoted (location.getD unknownLocation))] }

end PanicPayload

end DebugBridge
