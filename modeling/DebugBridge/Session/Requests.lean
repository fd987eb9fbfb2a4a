import DebugBridge.Session.Arguments
import DebugBridge.Session.State

/-!
# Requests

Every command has a handler that either refuses the request, and then has changed nothing, or makes
a turn of the session.  Commands for the backend only start an activity here and are answered when
that gets its outcome.
-/

namespace DebugBridge.Session

/-- A handler of requests. -/
abbrev Handler := Request → Session → Except RequestFault (Session × List Effect)

/-- The only stack frame there is. -/
def frameId : Int := 0

def capabilities : Json :=
  .ofMembers [
    ("supportsConfigurationDoneRequest", .bool true),
    ("supportsRestartRequest", .bool true),
    ("supportsTerminateRequest", .bool true),
    ("supportsEvaluateForHovers", .bool false),
    ("supportsSetVariable", .bool false),
    ("supportsStepBack", .bool false),
    ("supportsConditionalBreakpoints", .bool false)]

/-- Settles how lines and columns are counted. -/
def handshake : Handler := fun request session => do
  let arguments ← decodeArguments Arguments.handshakeDecoder {} request
  let session := { session with
    linesStartAt1 := arguments.linesStartAt1.getD true
    columnsStartAt1 := arguments.columnsStartAt1.getD true }
  return respond request (some capabilities) session

def setTracing (on : Bool) : Turn :=
  .change fun session => { session with outbox := { session.outbox with tracing := on } }

/-- Starts to attach to every context, unless the session was shut down. -/
def spawnAttaches : Turn := fun session =>
  if session.isShutDown then (session, [])
  else Turn.all (session.contexts.contexts.map fun context =>
    spawn (.attach context.thread .starting)) session

def launch : Handler := fun request session => do
  let arguments ← decodeArguments Arguments.launchDecoder {} request
  let serverPath ← requireArgument request "serverpath" arguments.usableServerPath
  if session.launched.isSome then .error .alreadyLaunched
  let entryMode := if arguments.stopOnEntry then ResumeMode.stepInto else .resume
  return Turn.all [
    .change fun session =>
      { session with launched := some { serverPath, entryMode, pending := some request } },
    setTracing arguments.trace,
    log .info "waiting for the backend to report the debugged resource"
      [("server_path", .shown serverPath), ("stop_on_entry", .bool arguments.stopOnEntry)],
    spawnAttaches] session

def configurationDone : Handler := fun request session => return respond request none session

def setBreakpoints : Handler := fun request session => do
  let arguments ← decodeArguments Arguments.setBreakpointsDecoder {} request
  let sourcePath ← requireArgument request "source.path"
    (arguments.source.path.filter fun path => !path.isEmpty)
  let (added, breakpoints) := session.breakpoints.replace sourcePath arguments.requestedLines
  let body := Json.ofMembers [("breakpoints", .array (added.map Breakpoint.toJson))]
  return Turn.all [
    .change fun session => { session with breakpoints },
    respond request (some body),
    if session.paths.isSome then spawn (.sync .starting)
    else log .debug "recorded breakpoints before attach" [("source", .shown sourcePath)]] session

def threads : Handler := fun request session =>
  let listed := session.contexts.contexts.map fun context =>
    Json.ofMembers [("id", .int context.thread), ("name", .string context.name)]
  return respond request (some (.ofMembers [("threads", .array listed)])) session

/-- The frame at the last pause of a context, if it has paused at a known place. -/
def frames (session : Session) (context : ExecutionContext) : List Json :=
  match context.currentFile, context.currentLine with
  | some file, some line =>
    let path := match session.paths with
      | some paths => paths.pausePath file
      | none => file
    [.ofMembers [
      ("id", .int frameId),
      ("name", .string ("Frame " ++ toString frameId)),
      ("source", .ofMembers [("name", .string (Path.lastPart path)), ("path", .string path)]),
      ("line", .int (editorLine line session.linesStartAt1)),
      ("column", .int (if session.columnsStartAt1 then 1 else 0))]]
  | _, _ => []

/-- Shows where a thread paused, and chooses it for the variables shown afterwards. -/
def stackTrace : Handler := fun request session => do
  let arguments ← decodeArguments Arguments.threadDecoder {} request
  let thread ← requireArgument request "threadId" arguments.thread
  match session.contexts.get? thread with
  | none => .error (.unknownThread thread)
  | some context =>
    let frames := session.frames context
    let body := Json.ofMembers [
      ("stackFrames", .array frames), ("totalFrames", .nat frames.length)]
    return respond request (some body)
      { session with contexts := session.contexts.showThread thread }

/-- Gives each kind of scope a handle. -/
def allocateScopes (frame : Int) : List Scope → Handles FrameScope →
    List Json × Handles FrameScope
  | [], handles => ([], handles)
  | kind :: kinds, handles =>
    let (reference, handles) := handles.add { kind, frameId := frame }
    let (scopes, handles) := allocateScopes frame kinds handles
    (.ofMembers [
      ("name", .string kind.label),
      ("variablesReference", .nat reference),
      ("expensive", .bool false)] :: scopes, handles)

def scopes : Handler := fun request session => do
  let arguments ← decodeArguments Arguments.scopesDecoder {} request
  let (scopes, handles) :=
    allocateScopes (arguments.frame.getD frameId) Scope.all session.handles
  return respond request (some (.ofMembers [("scopes", .array scopes)]))
    { session with handles }

def variableToJson (entry : String × ScriptValue) : Json :=
  .ofMembers [
    ("name", .string entry.1),
    ("value", .string entry.2.text),
    ("type", .string entry.2.typeName),
    ("variablesReference", .nat 0)]

/-- Shows the variables of a scope, as the thread chosen last reported them. -/
def listVariables : Handler := fun request session => do
  let arguments ← decodeArguments Arguments.variablesDecoder {} request
  let reference ← requireArgument request "variablesReference" arguments.reference
  match session.handles.get? reference with
  | none => .error (.unknownReference reference)
  | some scope =>
    let shown := match session.contexts.shown? with
      | some context => context.variableMap scope.kind
      | none => []
    return respond request
      (some (.ofMembers [("variables", .array (shown.map variableToJson))])) session

/-- Resumes a thread or lets it step. -/
def resume (mode : ResumeMode) : Handler := fun request session => do
  let arguments ← decodeArguments Arguments.threadDecoder {} request
  let thread ← requireArgument request "threadId" arguments.thread
  match session.contexts.startCommand thread with
  | (none, _) => .error (.unknownThread thread)
  | (some suffix, contexts) =>
    return Turn.all [
      .change fun session => { session with contexts },
      log .debug "setting resume mode" [("thread_id", .int thread), ("mode", .shown mode.name)],
      spawn (.resume request thread suffix mode .starting)] session

def evaluate : Handler := fun request session => do
  let arguments ← decodeArguments Arguments.evaluateDecoder {} request
  let expression ← requireArgument request "expression" arguments.expression
  return spawn (.evaluate request expression .starting) session

def restart : Handler := fun request session =>
  match session.resourceName with
  | none => .error .notAttached
  | some resource => return spawn (.restart request resource .starting) session

/-- Ends the debugging, but not the session. -/
def terminate : Handler := fun request session =>
  return Turn.all [shutdown, respond request none, emit "terminated" none] session

/-- Any other command succeeds without doing anything. -/
def acknowledge : Handler := fun request session =>
  return send (.response {
    requestSeq := request.seq, command := request.command, success := true
    message := some ("unhandled request " ++ request.command) }) session

/-- The handler of a command. -/
def handler (command : String) : Handler :=
  match command with
  | "initialize" => handshake
  | "launch" => launch
  | "configurationDone" => configurationDone
  | "restart" => restart
  | "setBreakpoints" => setBreakpoints
  | "threads" => threads
  | "stackTrace" => stackTrace
  | "scopes" => scopes
  | "variables" => listVariables
  | "continue" => resume .resume
  | "next" => resume .stepOver
  | "stepIn" => resume .stepInto
  | "evaluate" => evaluate
  | "disconnect" => terminate
  | "terminate" => terminate
  | _ => acknowledge

/-- Answers a refused request. -/
def refuse (request : Request) (fault : RequestFault) : Turn :=
  (log .debug "request failed"
    [("command", .shown request.command), ("error", .shown fault.message)]).andThen
    (respondFailure request fault.message)

def handle (request : Request) : Turn := fun session =>
  match handler request.command request session with
  | .ok turn => turn
  | .error fault => refuse request fault session

/-- Whether the request loop goes on behind a request. -/
inductive AfterRequest
  | proceed
  | exit
deriving DecidableEq, Repr

def afterRequest (request : Request) : AfterRequest :=
  if request.command = "disconnect" then .exit else .proceed

end DebugBridge.Session
