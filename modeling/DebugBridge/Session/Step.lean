import DebugBridge.Session.Activities
import DebugBridge.Session.Requests

/-!
# Steps of a session

One event at a time.  Runs are lists of events with the times at which they happen; any list is a
run, because an activity ignores what it does not wait for.

A turn is never interrupted, as on one thread: what follows from an event without waiting, such as
the stop that a poll's reply makes known, belongs to the same step, and no other event comes in
between.  Threads that share the session could slip a command between the two; runs here do not.
-/

namespace DebugBridge.Session

/-- Gives an event to the activity it is for. -/
def withActivity (id : Nat) (turn : Session → Activity → Turn) : Turn := fun session =>
  match session.activity? id with
  | some activity => turn session activity session
  | none => (session, [])

def react (now : Nat) : SessionEvent → Turn
  | .request request => handle request
  | .shutdown => shutdown
  | .release => .change fun session => { session with held := false }
  | .wake id => withActivity id fun session activity => wakeActivity now id session activity
  | .outcome id outcome => withActivity id fun _ activity => outcomeActivity now id outcome activity

/-- The session after an event, and what it wants done. -/
def step (now : Nat) (event : SessionEvent) : Turn := (react now event).andThen reap

/-- The session after a run, and all it wanted done on the way. -/
def run : List (Nat × SessionEvent) → Turn
  | [] => Turn.idle
  | (now, event) :: events => (step now event).andThen (run events)

end DebugBridge.Session
