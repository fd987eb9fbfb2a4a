import DebugBridge.CommandLine.Program
import DebugBridge.Simulation.Bench

/-!
# Rehearsals of the program

A whole run of the program as a function of what it finds: its arguments, the files and variables
around it, and the bytes on its standard input.  Nothing listens where the backend should be, and
the clock is virtual.
-/

namespace DebugBridge

/-- What a run of the program finds around it. -/
structure Surroundings where
  arguments : List String
  files : String → FileContent
  /-- Value of `CommandLine.configVariable`. -/
  configPath : Option String := none
  /-- Value of `CommandLine.logVariable`. -/
  logDirectives : Option String := none
  input : List UInt8

/-- A log file and what is appended to it. -/
structure LogFile where
  path : String
  json : Bool
  records : List LogRecord

/-- What comes of a run. -/
structure Report where
  exitCode : Nat
  /-- Text on standard output, apart from messages. -/
  printed : String := ""
  /-- Messages on standard output. -/
  messages : List Json := []
  /-- Lines on standard error, apart from the log. -/
  complaints : List String := []
  log : Option LogFile := none

namespace Surroundings

/-- More alarms than a run without a backend can set. -/
def alarmFuel : Nat := 1000000

/-- The bench after everything that a session does with an input. -/
def serve (config : BackendConfig) (input : List UInt8) : Bench :=
  ((Bench.start config false true).receive input).closeInput.runToEnd alarmFuel

def serveReport (surroundings : Surroundings) (config : AdapterConfig)
    (complaints : List String) : Report :=
  let bench := serve config.backend surroundings.input
  let ending := bench.server.result.getD (.ok ())
  let records := CommandLine.logged config.logging surroundings.logDirectives
    (CommandLine.startRecord config.backend :: bench.observed.records)
  { exitCode := CommandLine.exitCode ending
    messages := bench.observed.messages
    complaints := complaints ++ (match ending with
      | .ok _ => []
      | .error fault => [CommandLine.finalComplaint fault.message])
    log := config.logging.file.map fun path => { path, json := config.logging.json, records } }

/-- Runs the program. -/
def rehearse (surroundings : Surroundings) : Report :=
  let request := CommandLine.read {} surroundings.arguments
  let source := (CommandLine.configPath? request surroundings.configPath).map fun path =>
    (path, surroundings.files path)
  match CommandLine.plan source request with
  | .print text => { exitCode := 0, printed := text }
  | .refuse => { exitCode := CommandLine.refusedCode }
  | .serve config complaints => surroundings.serveReport config complaints

end Surroundings

end DebugBridge
