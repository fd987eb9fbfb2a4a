import DebugBridge.Framing.Frame
import DebugBridge.Session.Step

/-!
# The request loop

Serves one session on a stream of bytes: requests are read from frames and handled in order until
the editor disconnects, the stream ends or a frame cannot be read.  Then the session is shut down
and let go; what it still has to do it finishes on its own.
-/

namespace DebugBridge

structure ServerLoop where
  session : Session
  /-- Bytes that have arrived and are not used up. -/
  buffer : List UInt8 := []
  ending : StreamEnd := .unfinished
  /-- How reading ended. -/
  result : Option (Except FrameFault Unit) := none

namespace ServerLoop

def start (config : BackendConfig) : ServerLoop := { session := .ofConfig config }

/-- A turn of the session inside the loop. -/
def onSession (turn : Session.Turn) (server : ServerLoop) : ServerLoop × List Effect :=
  let (session, effects) := turn server.session
  ({ server with session }, effects)

/-- Stops reading, and shuts the session down and lets go of it. -/
def stop (now : Nat) (result : Except FrameFault Unit) (server : ServerLoop) :
    ServerLoop × List Effect :=
  onSession ((Session.step now .shutdown).andThen (Session.step now .release))
    { server with result := some result }

/-- Hands a request to the session; other messages mean nothing. -/
def accept (now : Nat) (request : Request) (server : ServerLoop) : ServerLoop × List Effect :=
  let traced := (server.session.outbox.inboundTrace request).map Effect.log
  let (server, effects) := onSession (Session.step now (.request request)) server
  (server, traced ++ effects)

/-- Reads and handles what is in the buffer; `fuel` is more than the bytes in it. -/
def readOn (now : Nat) : (fuel : Nat) → ServerLoop → ServerLoop × List Effect
  | 0, server => (server, [])
  | fuel + 1, server =>
    match Framing.nextRequest server.buffer server.ending with
    | .waiting => (server, [])
    | .finished => server.stop now (.ok ())
    | .failed fault rest => { server with buffer := rest }.stop now (.error fault)
    | .value request rest =>
      let server := { server with buffer := rest }
      if request.type = "request" then
        let (server, effects) := server.accept now request
        let (server, more) := match Session.afterRequest request with
          | .exit => server.stop now (.ok ())
          | .proceed => readOn now fuel server
        (server, effects ++ more)
      else readOn now fuel server

/-- Goes on reading, unless reading has ended. -/
def pump (now : Nat) (server : ServerLoop) : ServerLoop × List Effect :=
  if server.result.isSome then (server, [])
  else server.readOn now (server.buffer.length + 1)

/-- More bytes arrive. -/
def receive (bytes : List UInt8) (server : ServerLoop) : ServerLoop :=
  { server with buffer := server.buffer ++ bytes }

/-- The stream ends. -/
def close (server : ServerLoop) : ServerLoop := { server with ending := .closed }

/-- Whether everything that could still send a message is done. -/
def isQuiet (server : ServerLoop) : Bool :=
  server.result.isSome && server.session.activities.isEmpty

end ServerLoop

end DebugBridge
