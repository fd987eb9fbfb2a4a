import DebugBridge.Framing.Frame

/-!
# The output

Messages wait in a queue until the stream takes them, one frame after the other.  Once the stream
refuses a frame the writer gives up: what was queued is lost, and nothing is queued any more.
-/

namespace DebugBridge

structure Output where
  /-- Messages that are not written, the next one first. -/
  queue : List Json := []
  /-- The writer has given up. -/
  isGone : Bool := false

namespace Output

def put (message : Json) (output : Output) : Output :=
  if output.isGone then output else { output with queue := output.queue ++ [message] }

/-- The bytes of the next frame, and the output once they are written. -/
def next? (output : Output) : Option (List UInt8 × Output) :=
  match output.queue with
  | [] => none
  | message :: rest => some (Framing.ofValue message, { output with queue := rest })

/-- The output once the stream has refused a frame. -/
def refused : Output := { isGone := true }

end Output

end DebugBridge
