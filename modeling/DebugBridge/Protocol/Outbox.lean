import DebugBridge.Log.Record
import DebugBridge.Protocol.Message

/-!
# The outbox

Numbers what goes to the editor: responses and events share one counter that starts at one.  While
tracing is on, the traffic in both directions is logged.
-/

namespace DebugBridge

structure Outbox where
  nextSeq : Int := 1
  tracing : Bool := false
deriving DecidableEq

namespace Outbox

/-- The message under the next number. -/
def number (outbox : Outbox) (message : Message) : Json × Outbox :=
  (message.toJson outbox.nextSeq, { outbox with nextSeq := outbox.nextSeq + 1 })

/-- The record of a message that leaves. -/
def outboundRecord (message : Json) : LogRecord :=
  { level := .info, target := protocolTarget
    fields := [("direction", .quoted "out"), ("message", .shown message.print)] }

/-- The record of a request that came in. -/
def inboundRecord (request : Request) : LogRecord :=
  { level := .info, target := protocolTarget
    fields := [
      ("direction", .quoted "in"),
      ("seq", .int request.seq),
      ("command", .shown request.command),
      ("arguments", .shown request.arguments.print)] }

def outboundTrace (outbox : Outbox) (message : Json) : List LogRecord :=
  if outbox.tracing then [outboundRecord message] else []

def inboundTrace (outbox : Outbox) (request : Request) : List LogRecord :=
  if outbox.tracing then [inboundRecord request] else []

end Outbox

end DebugBridge
