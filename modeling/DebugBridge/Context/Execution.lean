import DebugBridge.Backend.RunState
import DebugBridge.Scope.Handles

/-!
# Execution contexts

The contexts that can be debugged, each with the snapshot of its last pause.  A command marks a
context running before it is sent; a poll result is believed only if no command began or finished
since the poll was planned and none is outstanding.  The epoch of a context counts those events.
-/

namespace DebugBridge

/-- Which contexts the backend offers. -/
inductive ContextLayout
  /-- One context, at endpoints without suffix. -/
  | single
  | serverAndClient
deriving DecidableEq, Inhabited, Repr

namespace ContextLayout

/-- The name in configurations. -/
def name : ContextLayout → String
  | .single => "single"
  | .serverAndClient => "server-and-client"

/-- The name in logs. -/
def logName : ContextLayout → String
  | .single => "Single"
  | .serverAndClient => "ServerAndClient"

def ofName (text : String) : ContextLayout :=
  if text = single.name then .single else .serverAndClient

def decoder {F : Type → Type} [Format F] : F ContextLayout :=
  Format.map ofName (Format.choice [single.name, serverAndClient.name])

end ContextLayout

def serverThread : Int := 1

def clientThread : Int := 2

/-- One context, which the editor sees as a thread. -/
structure ExecutionContext where
  thread : Int
  name : String
  /-- Appended to the endpoints of this context. -/
  suffix : String
  currentFile : Option String := none
  /-- Counted from zero. -/
  currentLine : Option Int := none
  /-- False while the last snapshot is current. -/
  running : Bool := false
  localVariables : VariableMap := []
  upvalueVariables : VariableMap := []
  globalVariables : VariableMap := []
  /-- Commands begun and finished so far. -/
  epoch : Nat := 0
  /-- Commands outstanding. -/
  inFlight : Nat := 0

namespace ExecutionContext

def variableMap (context : ExecutionContext) : Scope → VariableMap
  | .locals => context.localVariables
  | .closure => context.upvalueVariables
  | .globals => context.globalVariables

def startCommand (context : ExecutionContext) : ExecutionContext :=
  { context with
    running := true, epoch := context.epoch + 1, inFlight := context.inFlight + 1 }

def endCommand (context : ExecutionContext) : ExecutionContext :=
  { context with epoch := context.epoch + 1, inFlight := context.inFlight - 1 }

/-- The context paused with this snapshot. -/
def pauseWith (context : ExecutionContext) (state : RunState) : ExecutionContext :=
  { context with
    currentFile := state.currentFile
    currentLine := state.currentLine
    localVariables := state.localVariables
    upvalueVariables := state.upvalueVariables
    globalVariables := state.globalVariables
    running := false }

end ExecutionContext

/-- A context to poll, as it was when the poll was planned. -/
structure PlannedPoll where
  thread : Int
  suffix : String
  epoch : Nat
deriving DecidableEq

structure Contexts where
  contexts : List ExecutionContext
  shownThread : Option Int := none

namespace Contexts

def ofLayout : ContextLayout → Contexts
  | .single => { contexts := [{ thread := serverThread, name := "Server", suffix := "" }] }
  | .serverAndClient =>
    { contexts := [
        { thread := serverThread, name := "Server", suffix := "_server" },
        { thread := clientThread, name := "Client", suffix := "_client" }] }

def get? (store : Contexts) (thread : Int) : Option ExecutionContext :=
  store.contexts.find? fun context => context.thread == thread

/-- Changes the context of a thread, if there is one. -/
def modify (store : Contexts) (thread : Int) (change : ExecutionContext → ExecutionContext) :
    Contexts :=
  { store with
    contexts := store.contexts.map fun context =>
      if context.thread = thread then change context else context }

/-- The thread whose variables are shown from now on. -/
def showThread (store : Contexts) (thread : Int) : Contexts :=
  { store with shownThread := some thread }

/-- The context whose variables are shown: the first one until a thread is chosen. -/
def shown? (store : Contexts) : Option ExecutionContext :=
  match store.shownThread with
  | some thread => store.get? thread
  | none => store.contexts.head?

/-- Marks a context running before a command is sent to it, and gives its suffix. -/
def startCommand (store : Contexts) (thread : Int) : Option String × Contexts :=
  ((store.get? thread).map (·.suffix), store.modify thread ExecutionContext.startCommand)

/-- Notes that a command was answered or failed. -/
def endCommand (store : Contexts) (thread : Int) : Contexts :=
  store.modify thread ExecutionContext.endCommand

/-- The running contexts; paused ones have reported their stop. -/
def plannedPolls (store : Contexts) : List PlannedPoll :=
  (store.contexts.filter (·.running)).map fun context =>
    { thread := context.thread, suffix := context.suffix, epoch := context.epoch }

/-- Whether a poll result tells of a pause that no command has overtaken. -/
def isFreshPause (context : ExecutionContext) (target : PlannedPoll) (state : RunState) : Bool :=
  state.mode == .paused && context.running && context.inFlight == 0 &&
    context.epoch == target.epoch

/-- Applies a poll result; true exactly when the context has just become paused. -/
def applyPoll (store : Contexts) (target : PlannedPoll) (state : RunState) :
    Bool × Contexts :=
  match store.get? target.thread with
  | none => (false, store)
  | some context =>
    if isFreshPause context target state then
      (true, store.modify target.thread fun context => context.pauseWith state)
    else (false, store)

end Contexts

end DebugBridge
