import DebugBridge.CommandLine.Arguments
import DebugBridge.Config.Load
import DebugBridge.Log.Filter

/-!
# The program

What the program does with its arguments, the configuration they lead to, and the log it keeps.  A
configuration that cannot be loaded is complained about and replaced by the defaults, because the
editor that started the program can do nothing about it.
-/

namespace DebugBridge.CommandLine

/-- The environment variable with the path of a configuration. -/
def configVariable : String := "MTA_DAP_CONFIG"

/-- The environment variable with further log directives. -/
def logVariable : String := "RUST_LOG"

/-- The path of the configuration: the argument, or else the environment's. -/
def configPath? (request : Request) (variablePath : Option String) : Option String :=
  match request with
  | .serve path _ => path.or variablePath
  | _ => none

/-- What the program does. -/
inductive Plan
  /-- Prints a text, and that is all. -/
  | print (text : String)
  /-- Refuses its arguments. -/
  | refuse
  /-- Serves a session, after complaining about what is wrong. -/
  | serve (config : AdapterConfig) (complaints : List String)

def complaint (path : String) (fault : ConfigFault) : String :=
  "mta-dap: failed to load config from " ++ path ++ ": " ++ fault.message
    ++ "; continuing with defaults"

/-- The configuration in a file, with a complaint if there is none. -/
def configure : Option (String × FileContent) → AdapterConfig × List String
  | none => ({}, [])
  | some (path, content) =>
    match AdapterConfig.loadFile path content with
    | .ok config => (config, [])
    | .error fault => ({}, [complaint path fault])

def withSingleContext (config : AdapterConfig) : AdapterConfig :=
  { config with backend := { config.backend with contexts := .single } }

/-- The plan for a request, given the file at the configuration's path. -/
def plan (source : Option (String × FileContent)) : Request → Plan
  | .shortHelp => .print shortHelpText
  | .longHelp => .print longHelpText
  | .version => .print versionText
  | .misuse => .refuse
  | .serve _ singleContext =>
    let (config, complaints) := configure source
    .serve (if singleContext then withSingleContext config else config) complaints

/-- Exit code after arguments that were refused. -/
def refusedCode : Nat := 2

/-- Exit code of a session, by the way its input ended. -/
def exitCode {ε : Type} : Except ε Unit → Nat
  | .ok _ => 0
  | .error _ => 1

def finalComplaint (text : String) : String := "Error: " ++ text

/-- The first record of a session. -/
def startRecord (config : BackendConfig) : LogRecord :=
  .adapter .info "starting debug adapter"
    [("backend", .shown config.url.text), ("contexts", .shown config.contexts.logName)]

/-- The records that are logged. -/
def logged (config : LoggingConfig) (directives : Option String) (records : List LogRecord) :
    List LogRecord :=
  records.filter (LogFilter.effective config.level directives).admits

end DebugBridge.CommandLine
