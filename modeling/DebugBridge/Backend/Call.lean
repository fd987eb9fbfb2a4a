import DebugBridge.Backend.RunState

/-!
# Calls of the backend

The backend only answers requests.  Endpoints of one context carry the context's suffix.
-/

namespace DebugBridge

inductive HttpMethod
  | get
  | post
deriving DecidableEq, Repr

def HttpMethod.name : HttpMethod → String
  | .get => "GET"
  | .post => "POST"

def debugPath : String := "/MTADebug"

def serverPath : String := "/MTAServer"

inductive BackendCall
  | info (suffix : String)
  | runState (suffix : String)
  | setResumeMode (suffix : String) (mode : ResumeMode)
  /-- Lines count from zero here. -/
  | setBreakpoint (file : String) (line : Int)
  | clearBreakpoints
  | setPendingEval (expression : String)
  | evalResult
  | serverCommand (command : String)
deriving DecidableEq, Inhabited

namespace BackendCall

def method : BackendCall → HttpMethod
  | .info _ => .get
  | .runState _ => .get
  | .setResumeMode _ _ => .post
  | .setBreakpoint _ _ => .post
  | .clearBreakpoints => .get
  | .setPendingEval _ => .post
  | .evalResult => .get
  | .serverCommand _ => .post

/-- The path below the backend's base URL. -/
def path : BackendCall → String
  | .info suffix => debugPath ++ "/get_info" ++ suffix
  | .runState suffix => debugPath ++ "/get_resume_mode" ++ suffix
  | .setResumeMode suffix _ => debugPath ++ "/set_resume_mode" ++ suffix
  | .setBreakpoint _ _ => debugPath ++ "/set_breakpoint"
  | .clearBreakpoints => debugPath ++ "/clear_breakpoints"
  | .setPendingEval _ => debugPath ++ "/set_pending_eval"
  | .evalResult => debugPath ++ "/get_eval_result"
  | .serverCommand _ => serverPath ++ "/command"

def body? : BackendCall → Option Json
  | .setResumeMode _ mode => some (.ofMembers [("resume_mode", .nat mode.code)])
  | .setBreakpoint file line => some (.ofMembers [("file", .string file), ("line", .int line)])
  | .setPendingEval expression => some (.ofMembers [("pending_eval", .string expression)])
  | .serverCommand command => some (.ofMembers [("command", .string command)])
  | .info _ => none
  | .runState _ => none
  | .clearBreakpoints => none
  | .evalResult => none

end BackendCall

end DebugBridge
