import DebugBridge.Backend.Wire
import DebugBridge.CommandLine.Program
import DebugBridge.Log.Panic
import DebugBridge.Log.Stamp
import DebugBridge.Server.Loop
import DebugBridge.Server.Output
import Std.Async.DNS
import Std.Async.Select
import Std.Async.TCP
import Std.Async.Timer
import Std.Sync.Channel
import Std.Time.DateTime.Timestamp

/-!
# The program's outer layer

Standard streams, files, the clock and connections.  What arrives from any of them is put in one
queue; the request loop takes it from there, one thing at a time, and what it wants done is carried
out here.
-/

namespace DebugBridge.Program

open Std Async

/-! ## Logging -/

/-- Writes records to standard error and to the log file, as configured. -/
structure Journal where
  config : LoggingConfig
  filter : LogFilter
  file : Option IO.FS.Handle

def openJournal (config : LoggingConfig) : IO Journal := do
  let filter := LogFilter.effective config.level (← IO.getEnv CommandLine.logVariable)
  let file ← match config.file with
    | some path =>
      try pure (some (← IO.FS.Handle.mk path .append))
      catch _ => pure none
    | none => pure none
  return { config, filter, file }

def stamped (config : LoggingConfig) (stamp : String) (record : LogRecord) : String :=
  if config.json then
    match record.toJson with
    | .object members =>
      (Json.object (Json.insertMember "timestamp" (.string stamp) members)).print
    | other => other.print
  else stamp ++ " " ++ record.line

def now : IO String := do
  let moment := (← Time.Timestamp.now).toNanosecondsSinceUnixEpoch.val
  return Stamp.ofMicroseconds (moment.toNat / 1000)

def Journal.write (journal : Journal) (record : LogRecord) : IO Unit := do
  if journal.filter.admits record then
    let line := stamped journal.config (← now) record
    if journal.config.stderr then
      try IO.eprintln line catch _ => pure ()
    if let some file := journal.file then
      try
        file.putStrLn line
        file.flush
      catch _ => pure ()

/-! ## Exchanges -/

/-- The addresses of a host. -/
def addresses (host : Url.Host) (port : Nat) : Async (List Net.SocketAddress) := do
  let name := String.ofList (host.text.filter fun c => c != '[' && c != ']')
  let found ← DNS.getAddrInfo name (toString port)
  return found.toList.map fun address =>
    match address with
    | .v4 addr => .v4 { addr, port := port.toUInt16 }
    | .v6 addr => .v6 { addr, port := port.toUInt16 }

/-- Connects to the first address where somebody listens. -/
def connectFirst : List Net.SocketAddress → Async (Option TCP.Socket.Client)
  | [] => return none
  | address :: others => do
    let client ← TCP.Socket.Client.mk
    try
      client.connect address
      return some client
    catch _ => connectFirst others

/-- Reads until the reply is there or the connection ends. -/
partial def receive (client : TCP.Socket.Client) (arrived : List UInt8) : Async Wire.Reading := do
  let more ← try client.recv? 65536 catch _ => pure none
  match more with
  | none => return Wire.read arrived true
  | some bytes =>
    let arrived := arrived ++ bytes.data.toList
    match Wire.read arrived false with
    | .waiting => receive client arrived
    | reading => return reading

/-- Carries out a call. -/
def exchange (url : Url) (call : BackendCall) : Async Outcome := do
  let failed : Outcome := .error (BackendClient.noReply url)
  if url.scheme != "http" then return failed
  match Wire.address? url with
  | none => return failed
  | some (host, port) =>
    try
      match ← connectFirst (← addresses host port) with
      | none => return failed
      | some client =>
        client.send (ByteArray.mk (Wire.request url call).toArray)
        match ← receive client [] with
        | .reply reply => return .ok reply
        | _ => return failed
    catch _ => return failed

/-! ## The queue -/

/-- What arrives while a session is served. -/
inductive Arrival
  | input (byte : UInt8)
  | inputEnd
  /-- The outcome of the call with a number. -/
  | outcome (number : Nat) (outcome : Outcome)
  /-- Nothing, but time has passed. -/
  | nothing
deriving Inhabited

/-- Puts the input into the queue byte by byte: a longer read would wait until it is complete. -/
partial def readInput (input : IO.FS.Stream) (queue : Channel Arrival) : IO Unit := do
  let bytes ← try input.read 1 catch _ => pure ByteArray.empty
  if bytes.isEmpty then
    let _ ← queue.send .inputEnd
  else
    bytes.data.forM fun byte => discard (queue.send (.input byte))
    readInput input queue

/-- A call under way. -/
structure Outstanding where
  number : Nat
  activity : Nat
  url : Url
  deadline : Nat

/-- The request loop, and what it waits for. -/
structure Live where
  server : ServerLoop
  /-- Input that the request loop has not seen. -/
  unread : Array UInt8 := #[]
  /-- Events that can happen now. -/
  events : List SessionEvent := []
  alarms : List (Nat × Nat) := []
  calls : List Outstanding := []
  nextCall : Nat := 0
  output : Output := {}

structure Desk where
  config : BackendConfig
  journal : Journal
  queue : Channel Arrival
  output : IO.FS.Stream
  started : Nat

def Desk.moment (desk : Desk) : IO Nat := return (← IO.monoMsNow) - desk.started

def Live.forget (live : Live) (activity : Nat) : Live :=
  { live with
    alarms := live.alarms.filter fun alarm => alarm.2 != activity
    calls := live.calls.filter fun call => call.activity != activity }

def closingOutput (fault : FrameFault) : LogRecord :=
  .adapter .warn "failed to write DAP message; closing output" [("error", .shown fault.message)]

def Desk.send (desk : Desk) (live : Live) (message : Json) : IO Live := do
  match (live.output.put message).next? with
  | none => return live
  | some (bytes, output) =>
    try
      desk.output.write (ByteArray.mk bytes.toArray)
      desk.output.flush
      return { live with output }
    catch error =>
      desk.journal.write (closingOutput (.io (toString error)))
      return { live with output := .refused }

/-- Starts an exchange; its outcome arrives in the queue. -/
def Desk.call (desk : Desk) (live : Live) (activity : Nat) (call : BackendCall) : IO Live := do
  match BackendClient.exchangeUrl desk.config.url call with
  | .error fault =>
    return { live with events := live.events ++ [.outcome activity (.error fault)] }
  | .ok url =>
    let number := live.nextCall
    let work : Async Unit := do
      let outcome ← exchange url call
      let _ ← desk.queue.send (.outcome number outcome)
    let _ ← Async.toIO work
    let deadline := (← desk.moment) + desk.config.requestTimeout
    return { live with
      nextCall := number + 1
      calls := live.calls ++ [{ number, activity, url, deadline }] }

def Desk.perform (desk : Desk) (live : Live) (effect : Effect) : IO Live := do
  match effect with
  | .send message => desk.send live message
  | .log record =>
    desk.journal.write record
    return live
  | .call activity call => desk.call live activity call
  | .ready activity => return { live with events := live.events ++ [.wake activity] }
  | .sleepUntil activity deadline =>
    return { live with alarms := live.alarms ++ [(deadline, activity)] }
  | .forget activity => return live.forget activity

def Desk.act (desk : Desk) (live : Live) (action : ServerLoop → ServerLoop × List Effect) :
    IO Live := do
  let (server, effects) := action live.server
  effects.foldlM desk.perform { live with server }

/-- Rings what is due, and ends the calls that have taken too long. -/
def Live.ring (live : Live) (now : Nat) : Live :=
  let woken := (live.alarms.filter fun alarm => alarm.1 ≤ now).map fun alarm =>
    SessionEvent.wake alarm.2
  let late := (live.calls.filter fun call => call.deadline ≤ now).map fun call =>
    SessionEvent.outcome call.activity (.error (BackendClient.noReply call.url))
  { live with
    events := live.events ++ woken ++ late
    alarms := live.alarms.filter fun alarm => now < alarm.1
    calls := live.calls.filter fun call => now < call.deadline }

def Live.nextMoment? (live : Live) : Option Nat :=
  (live.alarms.map (·.1) ++ live.calls.map (·.deadline)).min?

/-- Waits for an arrival, but not beyond a moment. -/
def Desk.next (desk : Desk) (moment : Option Nat) : IO Arrival := do
  let arrived := Selectable.case desk.queue.recvSelector fun arrival => return arrival
  match moment with
  | none => Async.block (Selectable.one #[arrived])
  | some moment =>
    let left : Nat := moment - (← desk.moment)
    Async.block do
      let timer ← Selector.sleep (Time.Millisecond.Offset.ofNat (left + 1))
      Selectable.one #[arrived, .case timer fun _ => return .nothing]

/-- Hands the input over to the request loop. -/
def Desk.pump (desk : Desk) (live : Live) : IO Live := do
  let server := live.server.receive live.unread.toList
  desk.act { live with server, unread := #[] } (ServerLoop.pump (← desk.moment))

def Desk.arrive (desk : Desk) (live : Live) (arrival : Arrival) : IO Live := do
  match arrival with
  | .input byte => return { live with unread := live.unread.push byte }
  | .inputEnd => desk.pump { live with server := live.server.close }
  | .outcome number outcome =>
    match live.calls.find? fun call => call.number == number with
    | some call =>
      let calls := live.calls.filter fun other => other.number != number
      return { live with calls, events := live.events ++ [.outcome call.activity outcome] }
    | none => return live
  | .nothing => return live

/-- Serves the session to its end. -/
partial def Desk.serve (desk : Desk) (live : Live) : IO (Except FrameFault Unit) := do
  match live.events with
  | event :: events =>
    let now ← desk.moment
    let live ← desk.act { live with events } (ServerLoop.onSession (Session.step now event))
    desk.serve live
  | [] =>
    if live.server.isQuiet then return live.server.result.getD (.ok ())
    else match ← desk.queue.tryRecv with
      | some arrival => desk.serve (← desk.arrive live arrival)
      | none =>
        if live.unread.isEmpty then
          let arrival ← desk.next live.nextMoment?
          let live ← desk.arrive live arrival
          desk.serve (live.ring (← desk.moment))
        else desk.serve (← desk.pump live)

/-! ## The whole run -/

def failureText (code : UInt32) (details : String) : String :=
  details ++ " (os error " ++ toString code ++ ")"

/-- What is at a path. -/
def fileContent (path : String) : IO FileContent := do
  try return .bytes (← IO.FS.readBinFile path).data.toList
  catch
    | .noFileOrDirectory _ _ _ => return .missing
    | .inappropriateType _ _ _ => return .directory
    | .permissionDenied _ code details => return .unreadable (failureText code details)
    | error => return .unreadable (toString error)

def runSession (config : AdapterConfig) : IO UInt32 := do
  let journal ← openJournal config.logging
  journal.write (CommandLine.startRecord config.backend)
  let queue ← Channel.new
  let input ← IO.getStdin
  let _ ← IO.asTask (readInput input queue) .dedicated
  let desk : Desk := {
    config := config.backend, journal, queue
    output := ← IO.getStdout, started := ← IO.monoMsNow }
  try
    let ending ← desk.serve { server := .start config.backend }
    if let .error fault := ending then
      IO.eprintln (CommandLine.finalComplaint fault.message)
    return (CommandLine.exitCode ending).toUInt32
  catch error =>
    journal.write ((PanicPayload.text (toString error)).record none)
    throw error

def run (arguments : List String) : IO UInt32 := do
  let request := CommandLine.read {} arguments
  let named? ← IO.getEnv CommandLine.configVariable
  let source ← match CommandLine.configPath? request named? with
    | some path => pure (some (path, ← fileContent path))
    | none => pure none
  match CommandLine.plan source request with
  | .print text =>
    IO.print text
    return 0
  | .refuse =>
    IO.eprint (CommandLine.usageText ++ "\nFor more information, try '--help'.\n")
    return CommandLine.refusedCode.toUInt32
  | .serve config complaints =>
    complaints.forM fun complaint => IO.eprintln complaint
    runSession config

end DebugBridge.Program

/-- Runs the program with its arguments. -/
def main (arguments : List String) : IO UInt32 := DebugBridge.Program.run arguments
