import DebugBridge.Backend.Client
import DebugBridge.Breakpoint.BySource
import DebugBridge.Config.Settings
import DebugBridge.Path.Resource
import DebugBridge.Protocol.Outbox
import DebugBridge.Schedule.Timer

/-!
# Sessions

A session is a machine: it takes one event at a time and answers with effects.  Whatever waits for
the backend or the clock is an activity under a number that is never given twice.  An activity
waits for exactly one thing; an event that it does not wait for means nothing to it.
-/

namespace DebugBridge

/-- What a session wants done. -/
inductive Effect
  | send (message : Json)
  | log (record : LogRecord)
  /-- The activity waits for the outcome of a call. -/
  | call (activity : Nat) (call : BackendCall)
  /-- The activity can go on at once. -/
  | ready (activity : Nat)
  | sleepUntil (activity : Nat) (deadline : Nat)
  /-- The activity is no more; what it waited for is to be dropped. -/
  | forget (activity : Nat)

/-- What happens to a session. -/
inductive SessionEvent
  | request (request : Request)
  | shutdown
  /-- Its driver lets go of it. -/
  | release
  /-- An activity goes on: it was ready, or its time has come. -/
  | wake (activity : Nat)
  | outcome (activity : Nat) (outcome : Outcome)

/-- Asks until the resource of a context has started, then attaches. -/
inductive AttachStage
  | starting
  | waiting (timer : Timer)
  /-- Waits for the resource info. -/
  | asking (timer : Timer) (suffix : String)
  /-- Attached; waits for the context to resume. -/
  | resuming (contextName : String) (suffix : String) (mode : ResumeMode)

inductive PollStage
  | starting
  | waiting (timer : Timer)
  /-- Waits for the state of the first target; the others follow. -/
  | asking (timer : Timer) (target : PlannedPoll) (others : List PlannedPoll)

/-- Breakpoints that a sync has still to set, and how many there are in all. -/
structure SyncPlan where
  rest : List (String × Int)
  total : Nat

inductive SyncStage
  | starting
  /-- Another sync is at work. -/
  | queued
  /-- Its turn has come. -/
  | admitted
  | clearing (plan : SyncPlan)
  | setting (file : String) (line : Int) (plan : SyncPlan)

/-- A task of a single call. -/
inductive CallStage
  | starting
  | calling
deriving DecidableEq

inductive EvaluateStage
  | starting
  | submitting
  | sleeping (deadline : Nat)
  | reading
deriving DecidableEq

inductive Activity
  | attach (thread : Int) (stage : AttachStage)
  | poll (stage : PollStage)
  | sync (stage : SyncStage)
  | resume (request : Request) (thread : Int) (suffix : String) (mode : ResumeMode)
      (stage : CallStage)
  | evaluate (request : Request) (expression : String) (stage : EvaluateStage)
  | restart (request : Request) (resource : String) (stage : CallStage)

namespace Activity

/-- Whether a shutdown ends the activity. -/
def endsAtShutdown : Activity → Bool
  | .attach _ _ => true
  | .poll _ => true
  | _ => false

/-- Whether the activity keeps its session alive; the poller does not. -/
def keepsSession : Activity → Bool
  | .poll _ => false
  | _ => true

def isPoller : Activity → Bool
  | .poll _ => true
  | _ => false

end Activity

/-- An accepted launch. -/
structure Launch where
  serverPath : String
  entryMode : ResumeMode
  /-- Answered by the first attach that is through. -/
  pending : Option Request

structure Session where
  config : BackendConfig
  outbox : Outbox := {}
  contexts : Contexts
  linesStartAt1 : Bool := true
  columnsStartAt1 : Bool := true
  breakpoints : SourceBreakpoints := {}
  handles : Handles FrameScope := {}
  /-- The directories of the first resource that was attached. -/
  paths : Option ResourceDirectories := none
  resourceName : Option String := none
  launched : Option Launch := none
  initializedSent : Bool := false
  isShutDown : Bool := false
  /-- Whether the driver still holds the session. -/
  held : Bool := true
  nextActivity : Nat := 0
  activities : List (Nat × Activity) := []
  /-- The sync that may call the backend. -/
  syncTurn : Option Nat := none
  /-- Syncs behind it, the next one first. -/
  syncQueue : List Nat := []

namespace Session

def ofConfig (config : BackendConfig) : Session :=
  { config, contexts := Contexts.ofLayout config.contexts }

/-- A turn of a session. -/
abbrev Turn := Session → Session × List Effect

namespace Turn

def idle : Turn := fun session => (session, [])

def andThen (first second : Turn) : Turn := fun session =>
  let (session, effects) := first session
  let (session, more) := second session
  (session, effects ++ more)

/-- Changes the session without effects. -/
def change (f : Session → Session) : Turn := fun session => (f session, [])

def effect (effect : Effect) : Turn := fun session => (session, [effect])

def all : List Turn → Turn
  | [] => idle
  | turn :: turns => turn.andThen (all turns)

end Turn

/-! ## Messages and records -/

def log (level : LogLevel) (message : String) (fields : List (String × LogValue)) : Turn :=
  .effect (.log (.adapter level message fields))

def send (message : Message) : Turn := fun session =>
  let (json, outbox) := session.outbox.number message
  ({ session with outbox }, (outbox.outboundTrace json).map Effect.log ++ [.send json])

def respond (request : Request) (body : Option Json) : Turn := send (.success request body)

def respondFailure (request : Request) (message : String) : Turn := send (.failure request message)

def emit (name : String) (body : Option Json) : Turn := send (.event { name, body })

/-! ## Activities -/

def activity? (session : Session) (id : Nat) : Option Activity :=
  (session.activities.find? fun entry => entry.1 == id).map (·.2)

/-- Starts an activity, which goes on once the current turn is over. -/
def spawn (activity : Activity) : Turn := fun session =>
  ({ session with
      nextActivity := session.nextActivity + 1
      activities := session.activities ++ [(session.nextActivity, activity)] },
    [.ready session.nextActivity])

def put (id : Nat) (activity : Activity) : Turn :=
  .change fun session =>
    { session with
      activities := session.activities.map fun entry =>
        if entry.1 = id then (id, activity) else entry }

/-- The activity waits for a call in its new stage. -/
def await (id : Nat) (activity : Activity) (call : BackendCall) : Turn :=
  (put id activity).andThen (.effect (.call id call))

/-- The activity waits for a moment in its new stage. -/
def sleep (id : Nat) (activity : Activity) (deadline : Nat) : Turn :=
  (put id activity).andThen (.effect (.sleepUntil id deadline))

/-- The activity has ended by itself. -/
def finish (id : Nat) : Turn :=
  .change fun session =>
    { session with activities := session.activities.filter fun entry => entry.1 != id }

/-- Ends every activity of a kind where it stands. -/
def cancel (isMeant : Activity → Bool) : Turn := fun session =>
  ({ session with activities := session.activities.filter fun entry => !isMeant entry.2 },
    (session.activities.filter fun entry => isMeant entry.2).map fun entry => .forget entry.1)

def hasPoller (session : Session) : Bool := session.activities.any fun entry => entry.2.isPoller

/-- Stops attaching and polling for good. -/
def shutdown : Turn :=
  (Turn.change fun session => { session with isShutDown := true }).andThen
    (cancel Activity.endsAtShutdown)

/-- Whether anyone still holds the session. -/
def isAlive (session : Session) : Bool :=
  session.held || session.activities.any fun entry => entry.2.keepsSession

/-- Without a holder the session goes, and its poller with it. -/
def reap : Turn := fun session =>
  if session.isAlive then (session, []) else cancel Activity.isPoller session

/-! ## Lines -/

def leastLine : Int := -0x8000000000000000

def greatestLine : Int := 0x7fffffffffffffff

/-- The backend counts lines from zero. -/
def backendLine (line : Int) (linesStartAt1 : Bool) : Int :=
  if linesStartAt1 then max leastLine (line - 1) else line

def editorLine (line : Int) (linesStartAt1 : Bool) : Int :=
  if linesStartAt1 then min greatestLine (line + 1) else line

end Session

end DebugBridge
