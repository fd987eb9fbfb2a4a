import DebugBridge.Backend.RunState
import DebugBridge.Json.Read

/-!
# A simulated backend

Answers the same requests as a game server and keeps what its scripts would fill in, so that a
paused context can be driven without one.  A request that is refused changes nothing.
-/

namespace DebugBridge

/-- What the script side reports when a context pauses. -/
structure PauseSnapshot where
  /-- Below the resources root. -/
  file : String
  /-- Counted from zero. -/
  line : Int
  localVariables : List (String × Json) := []
  upvalueVariables : List (String × Json) := []
  globalVariables : List (String × Json) := []

namespace PauseSnapshot

/-- The members of an object; none for anything else. -/
def table : Option Json → List (String × Json)
  | some (.object members) => members
  | _ => []

/-- The snapshot in the body of a request, when it names a file and a line. -/
def ofBody? (body : Json) : Option PauseSnapshot := do
  let file ← (body.member? "current_file").bind Json.string?
  let line ← (body.member? "current_line").bind Json.int64?
  return {
    file, line
    localVariables := table (body.member? "local_variables")
    upvalueVariables := table (body.member? "upvalue_variables")
    globalVariables := table (body.member? "global_variables") }

def members (snapshot : PauseSnapshot) : List (String × Json) := [
  ("current_file", .string snapshot.file),
  ("current_line", .int snapshot.line),
  ("local_variables", .object snapshot.localVariables),
  ("upvalue_variables", .object snapshot.upvalueVariables),
  ("global_variables", .object snapshot.globalVariables)]

end PauseSnapshot

/-- What the simulated backend knows of one context. -/
structure SimulatedContext where
  info : Option (String × String) := none
  mode : ResumeMode := .resume
  snapshot : Option PauseSnapshot := none
  /-- The modes posted so far. -/
  postedModes : List ResumeMode := []
  infoRequests : Nat := 0
  polls : Nat := 0

/-- A change of the breakpoints. -/
inductive BreakpointChange
  | set (file : String) (line : Int)
  | remove (file : String) (line : Int)
  | clear
deriving DecidableEq

/-- A reply: a status, and a JSON body unless it is a refusal. -/
structure SimulatedReply where
  status : Nat
  body : Option Json := none

def SimulatedReply.ok (body : Json) : SimulatedReply := { status := 200, body := some body }

def SimulatedReply.refusal (status : Nat) : SimulatedReply := { status }

structure SimulatedBackend where
  /-- By suffix; a context appears here once it is touched. -/
  contexts : List (String × SimulatedContext) := []
  breakpoints : List (String × Int) := []
  changes : List BreakpointChange := []
  pendingEval : Option String := none
  submittedEvals : List String := []
  evalResult : Option String := none
  commands : List String := []
  unavailable : Bool := false
  /-- Endpoints that refuse every request. -/
  failing : List String := []

namespace SimulatedBackend

def context (backend : SimulatedBackend) (suffix : String) : SimulatedContext :=
  (Json.lookup suffix backend.contexts).getD {}

def putContext (backend : SimulatedBackend) (suffix : String) (context : SimulatedContext) :
    SimulatedBackend :=
  { backend with contexts := Json.insertMember suffix context backend.contexts }

/-! ## The script side -/

/-- From now on a resource is reported as started in a context. -/
def reportResource (backend : SimulatedBackend) (suffix name path : String) : SimulatedBackend :=
  backend.putContext suffix { backend.context suffix with info := some (name, path) }

def pause (backend : SimulatedBackend) (suffix : String) (snapshot : PauseSnapshot) :
    SimulatedBackend :=
  backend.putContext suffix
    { backend.context suffix with mode := .paused, snapshot := some snapshot }

def offerResult (backend : SimulatedBackend) (result : String) : SimulatedBackend :=
  { backend with evalResult := some result }

def setOutage (backend : SimulatedBackend) (on : Bool) : SimulatedBackend :=
  { backend with unavailable := on }

def setRefusing (backend : SimulatedBackend) (endpoint : String) (on : Bool) : SimulatedBackend :=
  let others := backend.failing.filter (· != endpoint)
  { backend with failing := if on then endpoint :: others else others }

/-! ## Endpoints -/

/-- The suffix of an endpoint of this name, if it is one of a context. -/
def suffixOf? (name endpoint : String) : Option String :=
  ["", "_server", "_client"].find? fun suffix => name ++ suffix == endpoint

def textMember? (body : Json) (name : String) : Option String :=
  (body.member? name).bind Json.string?

/-- The mode with the code in a body. -/
def modeOf? (body : Json) : Option ResumeMode :=
  ((body.member? "resume_mode").bind Json.nat?).bind ResumeMode.ofCode?

def getInfo (backend : SimulatedBackend) (suffix : String) : SimulatedReply × SimulatedBackend :=
  let context := backend.context suffix
  let members := match context.info with
    | some (name, path) => [("resource_name", Json.string name), ("resource_path", .string path)]
    | none => []
  (.ok (.ofMembers members),
    backend.putContext suffix { context with infoRequests := context.infoRequests + 1 })

def postInfo (backend : SimulatedBackend) (suffix : String) (body : Json) :
    SimulatedReply × SimulatedBackend :=
  match textMember? body "resource_name", textMember? body "resource_path" with
  | some name, some path => (.ok body, backend.reportResource suffix name path)
  | _, _ => (.refusal 400, backend)

def getResumeMode (backend : SimulatedBackend) (suffix : String) :
    SimulatedReply × SimulatedBackend :=
  let context := backend.context suffix
  let snapshot := match context.snapshot with
    | some snapshot => snapshot.members
    | none => []
  (.ok (.ofMembers (("resume_mode", .nat context.mode.code) :: snapshot)),
    backend.putContext suffix { context with polls := context.polls + 1 })

def postResumeMode (backend : SimulatedBackend) (suffix : String) (body : Json) :
    SimulatedReply × SimulatedBackend :=
  match modeOf? body with
  | some mode =>
    let context := backend.context suffix
    (.ok (.ofMembers [("resume_mode", .nat mode.code)]),
      backend.putContext suffix { context with
        mode
        postedModes := context.postedModes ++ [mode]
        snapshot := (PauseSnapshot.ofBody? body).or context.snapshot })
  | none => (.refusal 400, backend)

/-- The file and line in a body. -/
def placeOf? (body : Json) : Option (String × Int) := do
  let file ← textMember? body "file"
  let line ← (body.member? "line").bind Json.int64?
  return (file, line)

def setBreakpoint (backend : SimulatedBackend) (body : Json) :
    SimulatedReply × SimulatedBackend :=
  match placeOf? body with
  | some (file, line) =>
    (.ok body, { backend with
      breakpoints := backend.breakpoints ++ [(file, line)]
      changes := backend.changes ++ [.set file line] })
  | none => (.refusal 400, backend)

def removeBreakpoint (backend : SimulatedBackend) (body : Json) :
    SimulatedReply × SimulatedBackend :=
  match placeOf? body with
  | some (file, line) =>
    (.ok body, { backend with
      breakpoints := backend.breakpoints.filter (· != (file, line))
      changes := backend.changes ++ [.remove file line] })
  | none => (.refusal 400, backend)

def getBreakpoints (backend : SimulatedBackend) : SimulatedReply × SimulatedBackend :=
  (.ok (.array (backend.breakpoints.map fun (file, line) =>
    .ofMembers [("file", .string file), ("line", .int line)])), backend)

def clearBreakpoints (backend : SimulatedBackend) : SimulatedReply × SimulatedBackend :=
  (.ok (.object []), { backend with breakpoints := [], changes := backend.changes ++ [.clear] })

def postPendingEval (backend : SimulatedBackend) (body : Json) :
    SimulatedReply × SimulatedBackend :=
  match textMember? body "pending_eval" with
  | some expression =>
    (.ok body, { backend with
      pendingEval := some expression
      submittedEvals := backend.submittedEvals ++ [expression] })
  | none => (.refusal 400, backend)

/-- Reading a submitted expression takes it away. -/
def getPendingEval (backend : SimulatedBackend) : SimulatedReply × SimulatedBackend :=
  (.ok (.ofMembers [("pending_eval", .string (backend.pendingEval.getD ""))]),
    { backend with pendingEval := none })

def postEvalResult (backend : SimulatedBackend) (body : Json) :
    SimulatedReply × SimulatedBackend :=
  match textMember? body "eval_result" with
  | some result => (.ok body, backend.offerResult result)
  | none => (.refusal 400, backend)

/-- Reading a result takes it away. -/
def getEvalResult (backend : SimulatedBackend) : SimulatedReply × SimulatedBackend :=
  match backend.evalResult with
  | some result =>
    (.ok (.ofMembers [("eval_result", .string result)]), { backend with evalResult := none })
  | none => (.refusal 404, backend)

def postCommand (backend : SimulatedBackend) (body : Json) : SimulatedReply × SimulatedBackend :=
  match textMember? body "command" with
  | some command => (.ok body, { backend with commands := backend.commands ++ [command] })
  | none => (.refusal 400, backend)

/-- Reading requests of the debug endpoints. -/
def getEndpoint (backend : SimulatedBackend) (endpoint : String) :
    SimulatedReply × SimulatedBackend :=
  match suffixOf? "get_info" endpoint, suffixOf? "get_resume_mode" endpoint with
  | some suffix, _ => backend.getInfo suffix
  | none, some suffix => backend.getResumeMode suffix
  | none, none =>
    match endpoint with
    | "get_breakpoints" => backend.getBreakpoints
    | "clear_breakpoints" => backend.clearBreakpoints
    | "get_pending_eval" => backend.getPendingEval
    | "get_eval_result" => backend.getEvalResult
    | _ => (.refusal 404, backend)

/-- Writing requests of the debug endpoints. -/
def postEndpoint (backend : SimulatedBackend) (endpoint : String) (body : Json) :
    SimulatedReply × SimulatedBackend :=
  match suffixOf? "set_info" endpoint, suffixOf? "set_resume_mode" endpoint with
  | some suffix, _ => backend.postInfo suffix body
  | none, some suffix => backend.postResumeMode suffix body
  | none, none =>
    match endpoint with
    | "set_breakpoint" => backend.setBreakpoint body
    | "remove_breakpoint" => backend.removeBreakpoint body
    | "clear_breakpoints" => backend.clearBreakpoints
    | "set_pending_eval" => backend.postPendingEval body
    | "set_eval_result" => backend.postEvalResult body
    | _ => (.refusal 404, backend)

/-- The endpoint of a debug path. -/
def debugEndpoint? (path : String) : Option String :=
  let start := "/MTADebug/".toList
  if start.isPrefixOf path.toList then some (String.ofList (path.toList.drop start.length))
  else none

/-- Answers a request whose body has been read. -/
def respond (backend : SimulatedBackend) (method path : String) (body : Json) :
    SimulatedReply × SimulatedBackend :=
  if backend.unavailable then (.refusal 503, backend)
  else if path = "/MTAServer/command" && method = "POST" then backend.postCommand body
  else match debugEndpoint? path with
    | none => (.refusal 404, backend)
    | some endpoint =>
      if backend.failing.contains endpoint then (.refusal 500, backend)
      else if method = "GET" then backend.getEndpoint endpoint
      else if method = "POST" then backend.postEndpoint endpoint body
      else (.refusal 404, backend)

/-- Answers a request.  No body counts as null. -/
def handle (backend : SimulatedBackend) (method path : String) (body : List UInt8) :
    SimulatedReply × SimulatedBackend :=
  if body.isEmpty then backend.respond method path .null
  else match Json.parse body with
    | .ok body => backend.respond method path body
    | .error _ => (.refusal 400, backend)

end SimulatedBackend

end DebugBridge
