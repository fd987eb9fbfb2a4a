import DebugBridge.Decode.OfJson
import DebugBridge.Protocol.Message
import DebugBridge.Redaction.Quotes
import DebugBridge.Text.Blank

/-!
# Arguments of requests

What each command takes.  Null arguments stand for none at all, and every argument may be absent;
which ones a command cannot do without is checked afterwards.
-/

namespace DebugBridge

/-- Why a request is refused. -/
inductive RequestFault
  | invalidArguments (command : String) (message : String)
  | unknownThread (thread : Int)
  | unknownReference (reference : Int)
  /-- No resource is attached. -/
  | notAttached
  | alreadyLaunched
deriving DecidableEq

def RequestFault.message : RequestFault → String
  | .invalidArguments command text => "invalid " ++ command ++ " arguments: " ++ text
  | .unknownThread thread => "unknown threadId " ++ toString thread
  | .unknownReference reference => "unknown variablesReference " ++ toString reference
  | .notAttached => "no resource is attached yet"
  | .alreadyLaunched => "launch was already requested"

/-- Decodes the arguments of a request. -/
def decodeArguments {α : Type} (decoder : JsonDecoder α) (absent : α) (request : Request) :
    Except RequestFault α :=
  if request.arguments.isNull then .ok absent
  else match decoder.run request.arguments with
    | .ok value => .ok value
    | .error mismatch =>
      .error (.invalidArguments request.command (Redaction.json mismatch.message))

/-- An argument that the command cannot do without. -/
def requireArgument {α : Type} (request : Request) (name : String) :
    Option α → Except RequestFault α
  | some value => .ok value
  | none => .error (.invalidArguments request.command (name ++ " is required"))

structure HandshakeArguments where
  linesStartAt1 : Option Bool := none
  columnsStartAt1 : Option Bool := none

structure LaunchArguments where
  serverPath : Option String := none
  stopOnEntry : Bool := false
  trace : Bool := false

structure SourceArguments where
  path : Option String := none

structure SetBreakpointsArguments where
  source : SourceArguments := {}
  /-- The lines of breakpoints that are given as objects. -/
  breakpoints : Option (List Int) := none
  lines : Option (List Int) := none

structure ThreadArguments where
  thread : Option Int := none

structure ScopesArguments where
  frame : Option Int := none

structure VariablesArguments where
  reference : Option Int := none

structure EvaluateArguments where
  expression : Option String := none

namespace Arguments

open Format

def handshakeDecoder : JsonDecoder HandshakeArguments :=
  record "InitializeArguments" false [
    field "linesStartAt1" (optional boolean) fun linesStartAt1 arguments =>
      { arguments with linesStartAt1 },
    field "columnsStartAt1" (optional boolean) fun columnsStartAt1 arguments =>
      { arguments with columnsStartAt1 }] {}

def launchDecoder : JsonDecoder LaunchArguments :=
  record "LaunchArguments" false [
    field "serverpath" (optional string) fun serverPath arguments =>
      { arguments with serverPath },
    field "stopOnEntry" boolean fun stopOnEntry arguments => { arguments with stopOnEntry },
    field "trace" boolean fun trace arguments => { arguments with trace }] {}

def sourceDecoder : JsonDecoder SourceArguments :=
  record "SourceArguments" false [
    field "path" (optional string) fun path arguments => { arguments with path }] {}

/-- The line of a breakpoint. -/
def lineDecoder : JsonDecoder Int :=
  record "SourceBreakpoint" false [requiredField "line" int64 fun line _ => line] 0

def setBreakpointsDecoder : JsonDecoder SetBreakpointsArguments :=
  record "SetBreakpointsArguments" false [
    field "source" sourceDecoder fun source arguments => { arguments with source },
    field "breakpoints" (optional (JsonDecoder.list lineDecoder)) fun breakpoints arguments =>
      { arguments with breakpoints },
    field "lines" (optional (JsonDecoder.list int64)) fun lines arguments =>
      { arguments with lines }] {}

def threadDecoder : JsonDecoder ThreadArguments :=
  record "ThreadArguments" false [
    field "threadId" (optional int64) fun thread arguments => { arguments with thread }] {}

def scopesDecoder : JsonDecoder ScopesArguments :=
  record "ScopesArguments" false [
    field "frameId" (optional int64) fun frame arguments => { arguments with frame }] {}

def variablesDecoder : JsonDecoder VariablesArguments :=
  record "VariablesArguments" false [
    field "variablesReference" (optional int64) fun reference arguments =>
      { arguments with reference }] {}

def evaluateDecoder : JsonDecoder EvaluateArguments :=
  record "EvaluateArguments" false [
    field "expression" (optional string) fun expression arguments =>
      { arguments with expression }] {}

end Arguments

/-- The lines that a request sets breakpoints on. -/
def SetBreakpointsArguments.requestedLines (arguments : SetBreakpointsArguments) : List Int :=
  (arguments.breakpoints.or arguments.lines).getD []

/-- The server's directory, unless it is blank. -/
def LaunchArguments.usableServerPath (arguments : LaunchArguments) : Option String :=
  arguments.serverPath.filter fun path => !(Text.trim path).isEmpty

end DebugBridge
