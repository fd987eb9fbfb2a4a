import DebugBridge.Proofs.Server.Reading
import DebugBridge.Proofs.Session.Inquiries
import DebugBridge.Proofs.Session.Origins
import DebugBridge.Server.Output

/-!
# The served session

The request loop with its streams, as a machine: bytes arrive, the loop gets to read, activities go
on, and the output takes frames, in any order.  The session inside makes a run, which can be told
from what happens to the machine.
-/

namespace DebugBridge

open Framing

/-- What happens to a served session. -/
inductive ServerEvent
  | arrive (bytes : List UInt8)
  /-- The stream of requests ends. -/
  | close
  /-- Reading the stream fails from now on. -/
  | sever
  /-- The request loop gets to read, and goes on until it waits.  Where activities get a turn
  between two requests, the second is one that arrives later. -/
  | read (now : Nat)
  | wake (now activity : Nat)
  | outcome (now activity : Nat) (outcome : Outcome)
  /-- The output takes the next frame. -/
  | write
  /-- The output takes only so many bytes of the next frame, and fails. -/
  | refuse (count : Nat)

namespace ServerEvent

/-- The bytes that arrive. -/
def bytes : ServerEvent → List UInt8
  | .arrive bytes => bytes
  | _ => []

/-- What the stream comes to. -/
def streamEnd : ServerEvent → StreamEnd
  | .close => .closed
  | .sever => .broken
  | _ => .unfinished

/-- What happens to the session beside the requests. -/
def background? : ServerEvent → Option (Nat × SessionEvent)
  | .wake now activity => some (now, .wake activity)
  | .outcome now activity reply => some (now, .outcome activity reply)
  | _ => none

end ServerEvent

/-- All bytes that arrive before the stream ends. -/
def heard : List ServerEvent → List UInt8
  | [] => []
  | event :: events =>
    event.bytes ++ if event.streamEnd = .unfinished then heard events else []

/-- How the stream ends. -/
def ended : List ServerEvent → StreamEnd
  | [] => .unfinished
  | event :: events => if event.streamEnd = .unfinished then ended events else event.streamEnd

/-- The request loop with its output. -/
structure Service where
  server : ServerLoop
  output : Output := {}
  /-- The bytes that the output has taken. -/
  written : List UInt8 := []

namespace Service

def start (config : BackendConfig) : Service := { server := .start config }

/-- The loop or its session does something; the messages that this sends are queued. -/
def act (action : ServerLoop → ServerLoop × List Effect) (service : Service) :
    Service × List Effect :=
  let (server, effects) := action service.server
  ({ service with
    server
    output := (messagesIn effects).foldl (fun output message => output.put message)
      service.output },
  effects)

/-- The stream goes on unless it has ended. -/
def hear (change : ServerLoop → ServerLoop) (service : Service) : Service :=
  if service.server.ending = .unfinished then { service with server := change service.server }
  else service

/-- The output takes as much of the next frame as it likes. -/
def offer (take : List UInt8 × Output → List UInt8 × Output) (service : Service) : Service :=
  match service.output.next? with
  | none => service
  | some next =>
    { service with output := (take next).2, written := service.written ++ (take next).1 }

def step (service : Service) : ServerEvent → Service × List Effect
  | .arrive bytes => (service.hear (ServerLoop.receive bytes), [])
  | .close => (service.hear ServerLoop.close, [])
  | .sever => (service.hear fun server => { server with ending := .broken }, [])
  | .read now => service.act (ServerLoop.pump now)
  | .wake now activity => service.act (ServerLoop.onSession (Session.step now (.wake activity)))
  | .outcome now activity outcome =>
    service.act (ServerLoop.onSession (Session.step now (.outcome activity outcome)))
  | .write => (service.offer id, [])
  | .refuse count => (service.offer fun next => (next.1.take count, .refused), [])

/-- The service after what happens, and all it wanted done on the way. -/
def run : List ServerEvent → Service → Service × List Effect
  | [], service => (service, [])
  | event :: events, service =>
    let (next, effects) := service.step event
    let (last, more) := run events next
    (last, effects ++ more)

/-- What happens to the session at an event. -/
def takes (service : Service) : ServerEvent → List (Nat × SessionEvent)
  | .read now =>
    if service.server.result.isSome then []
    else (intake service.server.ending service.server.buffer).events now
  | event => event.background?.toList

/-- What happens to the session, in order. -/
def history : List ServerEvent → Service → List (Nat × SessionEvent)
  | [], _ => []
  | event :: events, service => service.takes event ++ history events (service.step event).1

/-! ## Streams and the session do not meet -/

section Streams

variable (service : Service)

theorem hear_server (change : ServerLoop → ServerLoop) :
    (service.hear change).server =
      if service.server.ending = .unfinished then change service.server else service.server := by
  unfold hear
  split <;> rfl

/-- What the stream does not change stays. -/
theorem hear_keeps {α : Type} {view : ServerLoop → α} {change : ServerLoop → ServerLoop}
    (hchange : ∀ server, view (change server) = view server) :
    view (service.hear change).server = view service.server := by
  rw [hear_server]
  split
  · exact hchange _
  · rfl

theorem hear_output (change : ServerLoop → ServerLoop) :
    (service.hear change).output = service.output := by
  unfold hear
  split <;> rfl

theorem offer_server (take : List UInt8 × Output → List UInt8 × Output) :
    (service.offer take).server = service.server := by
  unfold offer
  split <;> rfl

end Streams

/-! ## The session makes a run -/

section Run

variable (service : Service)

theorem messagesIn_acts (effects : List Effect) :
    messagesIn (acts effects) = messagesIn effects := by
  rw [messagesIn, acts, List.filterMap_filter, messagesIn]
  congr 1
  funext effect
  cases effect <;> rfl

/-- Reading on is what the session takes of it. -/
theorem session_pump (now : Nat) (server : ServerLoop) :
    (server.pump now).1.session = (Session.run (if server.result.isSome then []
        else (intake server.ending server.buffer).events now) server.session).1 ∧
      acts (server.pump now).2 = acts (Session.run (if server.result.isSome then []
        else (intake server.ending server.buffer).events now) server.session).2 := by
  unfold ServerLoop.pump
  split
  · exact ⟨rfl, rfl⟩
  · next hopen =>
      have hnone : server.result = none := by simpa using hopen
      have htook := @ServerLoop.took_readOn now _ server (Nat.lt_succ_self _) hnone
      exact ⟨htook.session, htook.acts⟩

theorem run_step (event : ServerEvent) :
    (service.step event).1.server.session =
        (Session.run (service.takes event) service.server.session).1 ∧
      acts (service.step event).2 =
        acts (Session.run (service.takes event) service.server.session).2 := by
  cases event with
  | arrive bytes => exact ⟨hear_keeps service fun _ => rfl, rfl⟩
  | close => exact ⟨hear_keeps service fun _ => rfl, rfl⟩
  | sever => exact ⟨hear_keeps service fun _ => rfl, rfl⟩
  | read now => exact session_pump now service.server
  | wake now activity =>
      have hrun := Session.run_snoc [] now (.wake activity) service.server.session
      rw [List.nil_append] at hrun
      simp only [takes, ServerEvent.background?, Option.toList_some, hrun]
      exact ⟨rfl, rfl⟩
  | outcome now activity outcome =>
      have hrun := Session.run_snoc [] now (.outcome activity outcome) service.server.session
      rw [List.nil_append] at hrun
      simp only [takes, ServerEvent.background?, Option.toList_some, hrun]
      exact ⟨rfl, rfl⟩
  | write => exact ⟨congrArg ServerLoop.session (offer_server _ _), rfl⟩
  | refuse count => exact ⟨congrArg ServerLoop.session (offer_server _ _), rfl⟩

/-- The session makes the run of what happens to it, and all that this run wants is wanted. -/
theorem run_history (events : List ServerEvent) :
    (run events service).1.server.session =
        (Session.run (history events service) service.server.session).1 ∧
      acts (run events service).2 =
        acts (Session.run (history events service) service.server.session).2 := by
  induction events generalizing service with
  | nil => exact ⟨rfl, rfl⟩
  | cons event events ih =>
      obtain ⟨hsession, hacts⟩ := service.run_step event
      obtain ⟨hlast, hmore⟩ := ih (service.step event).1
      rw [history, Session.run_append, Session.Turn.andThen_fst, Session.Turn.andThen_snd,
        acts_append, ← hsession, ← hacts, ← hlast, ← hmore, run, acts_append]
      exact ⟨rfl, rfl⟩

theorem run_snoc (events : List ServerEvent) (event : ServerEvent) :
    run (events ++ [event]) service =
      (((run events service).1.step event).1,
        (run events service).2 ++ ((run events service).1.step event).2) := by
  induction events generalizing service with
  | nil => simp [run]
  | cons first events ih => simp [run, ih]

theorem history_snoc (events : List ServerEvent) (event : ServerEvent) :
    history (events ++ [event]) service =
      history events service ++ (run events service).1.takes event := by
  induction events generalizing service with
  | nil => simp [history, run]
  | cons first events ih => simp [history, run, ih]

end Run

end Service

end DebugBridge
