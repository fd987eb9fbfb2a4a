import DebugBridge.Backend.Simulated
import DebugBridge.Server.Loop
import DebugBridge.Server.Output

/-!
# A bench for sessions

Runs a session against the simulated backend under a virtual clock, so that a whole debugging
afternoon takes no time and always happens in the same order.  Tasks run until each of them waits
for the clock or the backend; then, of the waiting calls, the one with the least target is answered.
Replies can be replaced, and calls or their replies held back.  When the backend is out of reach,
every call fails at once.
-/

namespace DebugBridge

/-- A reply in place of the backend's own. -/
inductive ForcedReply
  | reply (reply : HttpReply)
  /-- The connection closes without a reply. -/
  | drop

/-- The next calls of an endpoint get a forced reply. -/
structure ReplyRule where
  endpoint : String
  times : Nat
  reply : ForcedReply

/-- A call that the backend has not answered. -/
structure WaitingCall where
  activity : Nat
  call : BackendCall
  url : Url
  deadline : Nat
  /-- The outcome, once the backend has processed the call. -/
  stored : Option Outcome := none
  /-- May finish although its endpoint is held. -/
  freed : Bool := false

namespace WaitingCall

def target (call : WaitingCall) : String := call.url.requestTarget

/-- The last segment of the path. -/
def endpoint (call : WaitingCall) : String :=
  String.ofList (call.url.path.text.reverse.takeWhile (· != '/')).reverse

end WaitingCall

/-- How a processed call is logged. -/
structure ProcessedCall where
  method : HttpMethod
  target : String
  body : Option Json
  /-- Nothing when the connection was dropped. -/
  status : Option Nat

/-- Something that can run now. -/
inductive Job
  | session (event : SessionEvent)
  /-- The request loop reads on. -/
  | read
  /-- Queued messages are written. -/
  | write

/-- What the clock will do. -/
inductive Alarm
  | wake (activity : Nat)
  | timeout (activity : Nat)

/-- What was to be seen since the last look. -/
structure Observed where
  messages : List Json := []
  calls : List ProcessedCall := []
  records : List LogRecord := []

structure Bench where
  server : ServerLoop
  backend : SimulatedBackend := {}
  /-- The base URL of the backend. -/
  base : Url
  reachable : Bool
  /-- Whether the session is served over a byte stream. -/
  streamed : Bool
  now : Nat := 0
  jobs : List Job := []
  /-- Moments and alarms, in the order in which they were set. -/
  alarms : List (Nat × Alarm) := []
  /-- In the order in which they were made. -/
  waiting : List WaitingCall := []
  rules : List ReplyRule := []
  heldEndpoints : List String := []
  heldReplies : List String := []
  output : Output := {}
  /-- Writing fails from now on. -/
  outputBroken : Bool := false
  /-- Whether the end of the request loop has been reported. -/
  endReported : Bool := false
  observed : Observed := {}

namespace Bench

def start (config : BackendConfig) (reachable streamed : Bool) : Bench :=
  { server := .start config, base := config.url, reachable, streamed }

/-! ## Calls in flight -/

/-- The path of a call as the backend sees it: without what comes before its own endpoints. -/
def backendPath (url : Url) : String :=
  let start := "/MTA".toList
  let path := url.path.text
  match Redaction.splitAtFirst start path with
  | some (_, rest) => String.ofList (start ++ rest)
  | none => String.ofList path

def forget (activity : Nat) (bench : Bench) : Bench :=
  { bench with
    waiting := bench.waiting.filter fun call => call.activity != activity
    alarms := bench.alarms.filter fun alarm =>
      match alarm.2 with
      | .wake id => id != activity
      | .timeout id => id != activity }

def addJob (job : Job) (bench : Bench) : Bench := { bench with jobs := bench.jobs ++ [job] }

def observe (change : Observed → Observed) (bench : Bench) : Bench :=
  { bench with observed := change bench.observed }

def logRecord (record : LogRecord) : Bench → Bench :=
  observe fun observed => { observed with records := observed.records ++ [record] }

/-- A message leaves the session. -/
def sendMessage (message : Json) (bench : Bench) : Bench :=
  if bench.streamed then
    if bench.output.isGone then bench
    else
      let queued := { bench with output := bench.output.put message }
      if bench.output.queue.isEmpty then queued.addJob .write else queued
  else bench.observe fun observed =>
    { observed with messages := observed.messages ++ [message] }

def makeCall (activity : Nat) (call : BackendCall) (bench : Bench) : Bench :=
  match BackendClient.exchangeUrl bench.base call with
  | .error fault => bench.addJob (.session (.outcome activity (.error fault)))
  | .ok url =>
    if bench.reachable then
      let deadline := bench.now + bench.server.session.config.requestTimeout
      { bench with
        waiting := bench.waiting ++ [{ activity, call, url, deadline }]
        alarms := bench.alarms ++ [(deadline, .timeout activity)] }
    else
      bench.addJob (.session (.outcome activity (.error (BackendClient.noReply url))))

def applyEffect (bench : Bench) : Effect → Bench
  | .send message => bench.sendMessage message
  | .log record => bench.logRecord record
  | .call activity call => bench.makeCall activity call
  | .ready activity => bench.addJob (.session (.wake activity))
  | .sleepUntil activity deadline =>
    { bench with alarms := bench.alarms ++ [(deadline, .wake activity)] }
  | .forget activity => bench.forget activity

/-- Lets the request loop or its session do something. -/
def withServer (action : ServerLoop → ServerLoop × List Effect) (bench : Bench) : Bench :=
  let (server, effects) := action bench.server
  effects.foldl applyEffect { bench with server }

def closingOutput : LogRecord :=
  .adapter .warn "failed to write DAP message; closing output"
    [("error", .shown Framing.brokenPipe.message)]

def writeQueued (bench : Bench) : Bench :=
  let queued := bench.output.queue
  if queued.isEmpty then bench
  else if bench.outputBroken then { bench with output := .refused }.logRecord closingOutput
  else { bench with output := {} }.observe fun observed =>
    { observed with messages := observed.messages ++ queued }

def runJob (bench : Bench) : Job → Bench
  | .session event =>
    bench.withServer (ServerLoop.onSession (Session.step bench.now event))
  | .read => bench.withServer (ServerLoop.pump bench.now)
  | .write => bench.writeQueued

/-! ## The backend's side -/

def isHeld (bench : Bench) (call : WaitingCall) : Bool :=
  !call.freed && (bench.heldEndpoints.contains call.endpoint
    || (call.stored.isSome && bench.heldReplies.contains call.endpoint))

/-- The call to be answered next: the least target, the oldest of equals. -/
def nextCall? (bench : Bench) : Option WaitingCall :=
  (bench.waiting.filter fun call => !bench.isHeld call).foldl (fun least call =>
    match least with
    | none => some call
    | some other => if call.target < other.target then some call else some other) none

/-- Uses up the first rule for an endpoint. -/
def takeRule (endpoint : String) : List ReplyRule → Option ForcedReply × List ReplyRule
  | [] => (none, [])
  | rule :: rules =>
    if rule.endpoint = endpoint && 0 < rule.times then
      (some rule.reply,
        if rule.times = 1 then rules else { rule with times := rule.times - 1 } :: rules)
    else
      let (reply, rules) := takeRule endpoint rules
      (reply, rule :: rules)

def bodyBytes : Option Json → List UInt8
  | some body => body.bytes
  | none => []

/-- The backend processes a call: a rule decides, or else the backend itself. -/
def process (call : WaitingCall) (bench : Bench) : Outcome × Bench :=
  let method := call.call.method
  let body := call.call.body?
  let logged (status : Option Nat) : Bench → Bench :=
    observe fun observed =>
      { observed with
        calls := observed.calls ++ [{ method, target := call.target, body, status }] }
  match takeRule call.endpoint bench.rules with
  | (some (.reply reply), rules) =>
    (.ok reply, logged (some reply.status) { bench with rules })
  | (some .drop, rules) =>
    (.error (BackendClient.noReply call.url), logged none { bench with rules })
  | (none, _) =>
    let (reply, backend) := bench.backend.handle method.name (backendPath call.url) (bodyBytes body)
    (.ok { status := reply.status, body := bodyBytes reply.body },
      logged (some reply.status) { bench with backend })

/-- Answers a call, or stores its outcome while replies of its endpoint are held. -/
def answer (call : WaitingCall) (bench : Bench) : Bench :=
  let (outcome, bench) := match call.stored with
    | some outcome => (outcome, bench)
    | none => bench.process call
  if bench.heldReplies.contains call.endpoint && !call.freed then
    { bench with
      waiting := bench.waiting.map fun other =>
        if other.activity = call.activity then { other with stored := some outcome } else other }
  else (bench.forget call.activity).addJob (.session (.outcome call.activity outcome))

/-- Lets everything run until it waits for the clock or for a call that is held. -/
def runUntilIdle : (fuel : Nat) → Bench → Bench
  | 0, bench => bench
  | fuel + 1, bench =>
    match bench.jobs with
    | job :: jobs => runUntilIdle fuel ({ bench with jobs }.runJob job)
    | [] =>
      match bench.nextCall? with
      | some call => runUntilIdle fuel (bench.answer call)
      | none => bench

/-- More jobs than any moment holds. -/
def momentFuel : Nat := 1000000

def settle (bench : Bench) : Bench := runUntilIdle momentFuel bench

/-! ## The clock -/

def timedOut (activity : Nat) (bench : Bench) : Bench :=
  match bench.waiting.find? fun call => call.activity == activity with
  | some call =>
    (bench.forget activity).addJob
      (.session (.outcome activity (.error (BackendClient.noReply call.url))))
  | none => bench

def ring (bench : Bench) : Alarm → Bench
  | .wake activity => bench.addJob (.session (.wake activity))
  | .timeout activity => bench.timedOut activity

/-- The clock moves on to a moment, past none that an alarm is set for. -/
def arrive (moment : Nat) (bench : Bench) : Bench :=
  let due := bench.alarms.filter fun alarm => alarm.1 ≤ moment
  let rest := bench.alarms.filter fun alarm => moment < alarm.1
  ((due.map (·.2)).foldl ring { bench with now := moment, alarms := rest }).settle

/-- One millisecond passes. -/
def tick (bench : Bench) : Bench := bench.arrive (bench.now + 1)

def advance : (milliseconds : Nat) → Bench → Bench
  | 0, bench => bench
  | milliseconds + 1, bench => advance milliseconds bench.tick

/-! ## Driving -/

/-- Something happens to the session directly. -/
def give (event : SessionEvent) (bench : Bench) : Bench :=
  if bench.server.session.held then (bench.runJob (.session event)).settle else bench

def receive (bytes : List UInt8) (bench : Bench) : Bench :=
  ({ bench with server := bench.server.receive bytes }.addJob .read).settle

def closeInput (bench : Bench) : Bench :=
  ({ bench with server := bench.server.close }.addJob .read).settle

def addRule (rule : ReplyRule) (bench : Bench) : Bench :=
  { bench with rules := bench.rules ++ [rule] }

def hold (endpoint : String) (bench : Bench) : Bench :=
  { bench with heldEndpoints := endpoint :: bench.heldEndpoints }

def holdReply (endpoint : String) (bench : Bench) : Bench :=
  { bench with heldReplies := endpoint :: bench.heldReplies }

def release (endpoint : String) (bench : Bench) : Bench :=
  { bench with
    heldEndpoints := bench.heldEndpoints.filter (· != endpoint)
    heldReplies := bench.heldReplies.filter (· != endpoint) }.settle

/-- Frees the oldest waiting call of an endpoint. -/
def freeOldest (endpoint : String) : List WaitingCall → List WaitingCall
  | [] => []
  | call :: calls =>
    if call.endpoint = endpoint && !call.freed then { call with freed := true } :: calls
    else call :: freeOldest endpoint calls

def releaseOne (endpoint : String) (bench : Bench) : Bench :=
  { bench with waiting := freeOldest endpoint bench.waiting }.settle

def onBackend (change : SimulatedBackend → SimulatedBackend) (bench : Bench) : Bench :=
  { bench with backend := change bench.backend }.settle

/-- Whether the request loop and the writer are done. -/
def hasEnded (bench : Bench) : Bool :=
  bench.server.result.isSome && bench.output.queue.isEmpty
    && (bench.output.isGone || bench.server.isQuiet)

/-- The moment of the next alarm. -/
def nextMoment? (bench : Bench) : Option Nat := (bench.alarms.map (·.1)).min?

/-- Lets the clock run from alarm to alarm until the request loop is done. -/
def runToEnd : (fuel : Nat) → Bench → Bench
  | 0, bench => bench
  | fuel + 1, bench =>
    match bench.nextMoment? with
    | some moment => if bench.hasEnded then bench else runToEnd fuel (bench.arrive moment)
    | none => bench

/-! ## Looking -/

/-- What happened since the last look, and the bench with a fresh sheet. -/
def look (bench : Bench) : Observed × Bench := (bench.observed, { bench with observed := {} })

/-- The targets of the calls that still wait, in ascending order. -/
def heldTargets (bench : Bench) : List String :=
  (bench.waiting.map WaitingCall.target).mergeSort fun a b => decide (a ≤ b)

/-- The end of the request loop, in the step in which it came. -/
def takeEnd (bench : Bench) : Option (Except FrameFault Unit) × Bench :=
  if bench.hasEnded && !bench.endReported then
    (bench.server.result, { bench with endReported := true })
  else (none, bench)

end Bench

end DebugBridge
