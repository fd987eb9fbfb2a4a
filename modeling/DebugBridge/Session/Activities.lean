import DebugBridge.Session.State

/-!
# Activities of a session

What an activity does when it goes on and when the outcome of its call arrives: attaching to a
context, polling, syncing breakpoints, and the commands for the backend.
-/

namespace DebugBridge.Session

def faultField (fault : BackendFault) : String × LogValue := ("error", .shown fault.message)

def threadField (thread : Int) : String × LogValue := ("thread_id", .int thread)

/-! ## Attaching -/

/-- Asks for the resource info when the timer says so. -/
def attachTick (id : Nat) (thread : Int) (timer : Timer) (now : Nat) : Turn := fun session =>
  if timer.isDue now then
    match session.contexts.get? thread with
    | none => finish id session
    | some context =>
      await id (.attach thread (.asking (timer.advance now) context.suffix))
        (.info context.suffix) session
  else sleep id (.attach thread (.waiting timer)) timer.deadline session

def contextName (session : Session) (thread : Int) : String :=
  match session.contexts.get? thread with
  | some context => context.name
  | none => "Unknown"

/-- Keeps the directories and the name of the first resource that is attached. -/
def installPaths (launched : Launch) (resourceName resourcePath : String) : Turn :=
  .change fun session =>
    if session.paths.isSome then session
    else { session with
      paths := some
        (.ofDirectories launched.serverPath session.config.resourcesSubdir resourcePath)
      resourceName := some resourceName }

def startPolling : Turn := fun session =>
  if session.hasPoller then (session, [])
  else (log .debug "starting backend poller"
    [("period_ms", .int session.config.pollInterval)]).andThen (spawn (.poll .starting)) session

/-- Tells the editor once that it may configure the session. -/
def announceInitialized : Turn := fun session =>
  if session.initializedSent then (session, [])
  else emit "initialized" none { session with initializedSent := true }

/-- Begins the command that lets a context go on after attaching to it. -/
def resumeAttached (id : Nat) (thread : Int) (mode : ResumeMode) : Turn := fun session =>
  match session.contexts.startCommand thread with
  | (none, _) => finish id session
  | (some suffix, contexts) =>
    await id (.attach thread (.resuming (session.contextName thread) suffix mode))
      (.setResumeMode suffix mode) { session with contexts }

/-- Attaches to a context whose resource has started. -/
def attach (id : Nat) (thread : Int) (info : ResourceInfo) : Turn := fun session =>
  match session.launched with
  | none => finish id session
  | some launched =>
    let resourceName := info.name.getD ""
    let resourcePath := info.path.getD ""
    Turn.all [
      installPaths launched resourceName resourcePath,
      log .info "attached to backend context" [
        threadField thread,
        ("resource", .shown resourceName),
        ("resource_path", .shown resourcePath)],
      startPolling,
      announceInitialized,
      send (.console ("Attached to " ++ session.contextName thread ++ " context of resource '"
        ++ resourceName ++ "'")),
      if session.paths.isSome then Turn.idle else spawn (.sync .starting),
      resumeAttached id thread launched.entryMode] session

/-- Acts on the reply to a request for the resource info. -/
def attachInfo (id : Nat) (thread : Int) (timer : Timer) (now : Nat) :
    Except BackendFault ResourceInfo → Turn
  | .ok info =>
    if info.hasStarted then attach id thread info
    else (log .trace "resource not started yet" [threadField thread]).andThen
      (attachTick id thread timer now)
  | .error fault =>
    (if fault.isTransient then
      log .debug "backend not reachable yet" [threadField thread, faultField fault]
    else log .warn "unexpected resource info reply; retrying"
      [threadField thread, faultField fault]).andThen
      (attachTick id thread timer now)

/-- Takes the launch request that still waits for its response. -/
def takePending (session : Session) : Option Request × Session :=
  match session.launched with
  | none => (none, session)
  | some launched =>
    (launched.pending, { session with launched := some { launched with pending := none } })

def endCommand (thread : Int) : Turn :=
  .change fun session => { session with contexts := session.contexts.endCommand thread }

/-- Answers the launch once a context has resumed or failed to. -/
def answerLaunch (thread : Int) (name : String) (result : Except BackendFault Unit) : Turn :=
  fun session =>
    let (pending, session) := session.takePending
    let warning (fault : BackendFault) : Turn :=
      log .warn "post-attach resume failed" [threadField thread, faultField fault]
    match result, pending with
    | .ok (), some request => respond request none session
    | .ok (), none => (session, [])
    | .error fault, some request =>
      (warning fault).andThen (respondFailure request
        ("failed to resume the " ++ name ++ " context: " ++ fault.message)) session
    | .error fault, none => warning fault session

/-! ## Polling -/

def askTarget (id : Nat) (timer : Timer) (target : PlannedPoll) (others : List PlannedPoll) :
    Turn :=
  await id (.poll (.asking timer target others)) (.runState target.suffix)

/-- Begins a tick when the timer says so.  Ticks without a running context are over at once. -/
def pollTick (id : Nat) (timer : Timer) (now : Nat) : Turn := fun session =>
  if timer.isDue now then
    match session.contexts.plannedPolls with
    | target :: others => askTarget id (timer.advance now) target others session
    | [] =>
      let timer := timer.advancePast now
      sleep id (.poll (.waiting timer)) timer.deadline session
  else sleep id (.poll (.waiting timer)) timer.deadline session

/-- Goes on with a tick. -/
def pollNext (id : Nat) (timer : Timer) (now : Nat) : List PlannedPoll → Turn
  | target :: others => askTarget id timer target others
  | [] => pollTick id timer now

def stoppedBody (thread : Int) : Json :=
  .ofMembers [
    ("reason", .string "breakpoint"),
    ("threadId", .int thread),
    ("allThreadsStopped", .bool false)]

/-- Tells the editor of a pause unless it is stale or known, in the turn that takes up its state. -/
def pollState (target : PlannedPoll) : Except BackendFault RunState → Turn
  | .ok state => fun session =>
    let (stopped, contexts) := session.contexts.applyPoll target state
    let session := { session with contexts }
    if stopped then
      (log .debug "context paused" [threadField target.thread]).andThen
        (emit "stopped" (some (stoppedBody target.thread))) session
    else (session, [])
  | .error fault =>
    log .debug "resume state poll failed; retrying next tick"
      [threadField target.thread, faultField fault]

/-! ## Syncing breakpoints -/

/-- Every breakpoint as the backend names it; nothing before a resource is attached. -/
def backendBreakpoints (session : Session) : Option (List (String × Int)) :=
  session.paths.map fun paths => session.breakpoints.toList.map fun breakpoint =>
    (paths.backendName breakpoint.sourcePath, backendLine breakpoint.line session.linesStartAt1)

/-- Ends a sync and admits the next one. -/
def endSync (id : Nat) : Turn :=
  (finish id).andThen fun session =>
    match session.syncQueue with
    | [] => ({ session with syncTurn := none }, [])
    | next :: others =>
      (put next (.sync .admitted)).andThen (.effect (.ready next))
        { session with syncTurn := some next, syncQueue := others }

/-- Takes up the breakpoints of this moment and clears those of the backend. -/
def beginSync (id : Nat) : Turn := fun session =>
  match session.backendBreakpoints with
  | none => endSync id session
  | some plan =>
    await id (.sync (.clearing { rest := plan, total := plan.length })) .clearBreakpoints session

/-- Only one sync is at work; the others wait in order. -/
def startSync (id : Nat) : Turn := fun session =>
  match session.syncTurn with
  | none => beginSync id { session with syncTurn := some id }
  | some _ => put id (.sync .queued) { session with syncQueue := session.syncQueue ++ [id] }

def syncNext (id : Nat) (plan : SyncPlan) : Turn :=
  match plan.rest with
  | (file, line) :: rest =>
    await id (.sync (.setting file line { plan with rest })) (.setBreakpoint file line)
  | [] =>
    (log .debug "synced breakpoints to backend" [("count", .int plan.total)]).andThen (endSync id)

def syncCleared (id : Nat) (plan : SyncPlan) : Except BackendFault Unit → Turn
  | .ok () => syncNext id plan
  | .error fault =>
    (log .warn "failed to clear backend breakpoints" [faultField fault]).andThen (endSync id)

def syncSet (id : Nat) (file : String) (line : Int) (plan : SyncPlan) :
    Except BackendFault Unit → Turn
  | .ok () => syncNext id plan
  | .error fault =>
    (log .warn "failed to set backend breakpoint"
      [("file", .shown file), ("line", .int line), faultField fault]).andThen (syncNext id plan)

/-! ## Commands -/

/-- The body of the response to a resumed thread; steps have none. -/
def resumedBody (mode : ResumeMode) : Option Json :=
  if mode = .resume then some (.ofMembers [("allThreadsContinued", .bool false)]) else none

def answerResume (request : Request) (thread : Int) (mode : ResumeMode) :
    Except BackendFault Unit → Turn
  | .ok () => respond request (resumedBody mode)
  | .error fault =>
    (log .warn "failed to set resume mode"
      [threadField thread, ("mode", .shown mode.name), faultField fault]).andThen
      (respondFailure request ("failed to set resume mode: " ++ fault.message))

/-- Reads the result once the delay is over. -/
def evaluateTick (id : Nat) (request : Request) (expression : String) (deadline now : Nat) : Turn :=
  if deadline ≤ now then await id (.evaluate request expression .reading) .evalResult
  else sleep id (.evaluate request expression (.sleeping deadline)) deadline

def evaluateSubmitted (id : Nat) (request : Request) (expression : String) (now : Nat)
    (result : Except BackendFault Unit) : Turn :=
  (match result with
  | .ok () => Turn.idle
  | .error fault => log .warn "failed to submit expression" [faultField fault]).andThen
    fun session =>
      evaluateTick id request expression (now + session.config.evalResultDelay) now session

/-- Without a result the request stays unanswered. -/
def answerEvaluate (request : Request) : Except BackendFault String → Turn
  | .ok result =>
    respond request (some (.ofMembers [
      ("result", .string result), ("variablesReference", .nat 0)]))
  | .error fault =>
    log .warn "evaluation result not available; dropping response" [faultField fault]

def restartCommand (resource : String) : String := "restart " ++ resource

def answerRestart (request : Request) : Except BackendFault Unit → Turn
  | .ok () => respond request none
  | .error fault =>
    (log .warn "restart command failed" [faultField fault]).andThen
      (respondFailure request ("failed to restart resource: " ++ fault.message))

/-! ## Going on -/

/-- An activity goes on if it is ready or its time has come. -/
def wakeActivity (now id : Nat) (session : Session) : Activity → Turn
  | .attach thread .starting =>
    attachTick id thread
      (.start session.config.launchRetryInterval session.config.launchRetryInterval_pos now) now
  | .attach thread (.waiting timer) => attachTick id thread timer now
  | .poll .starting =>
    pollTick id (.start session.config.pollInterval session.config.pollInterval_pos now) now
  | .poll (.waiting timer) => pollTick id timer now
  | .sync .starting => startSync id
  | .sync .admitted => beginSync id
  | .resume request thread suffix mode .starting =>
    await id (.resume request thread suffix mode .calling) (.setResumeMode suffix mode)
  | .evaluate request expression .starting =>
    await id (.evaluate request expression .submitting) (.setPendingEval expression)
  | .evaluate request expression (.sleeping deadline) =>
    evaluateTick id request expression deadline now
  | .restart request resource .starting =>
    await id (.restart request resource .calling) (.serverCommand (restartCommand resource))
  | _ => Turn.idle

/-- An activity gets the outcome of the call it waits for. -/
def outcomeActivity (now id : Nat) (outcome : Outcome) : Activity → Turn
  | .attach thread (.asking timer suffix) =>
    attachInfo id thread timer now (BackendClient.info suffix outcome)
  | .attach thread (.resuming name suffix mode) =>
    Turn.all [
      endCommand thread,
      answerLaunch thread name (BackendClient.accepted (.setResumeMode suffix mode) outcome),
      finish id]
  | .poll (.asking timer target others) =>
    (pollState target (BackendClient.runState target.suffix outcome)).andThen
      (pollNext id timer now others)
  | .sync (.clearing plan) =>
    syncCleared id plan (BackendClient.accepted .clearBreakpoints outcome)
  | .sync (.setting file line plan) =>
    syncSet id file line plan (BackendClient.accepted (.setBreakpoint file line) outcome)
  | .resume request thread suffix mode .calling =>
    Turn.all [
      endCommand thread,
      answerResume request thread mode
        (BackendClient.accepted (.setResumeMode suffix mode) outcome),
      finish id]
  | .evaluate request expression .submitting =>
    evaluateSubmitted id request expression now
      (BackendClient.accepted (.setPendingEval expression) outcome)
  | .evaluate request _ .reading =>
    (answerEvaluate request (BackendClient.evalResult outcome)).andThen (finish id)
  | .restart request resource .calling =>
    (answerRestart request
      (BackendClient.accepted (.serverCommand (restartCommand resource)) outcome)).andThen
      (finish id)
  | _ => Turn.idle

end DebugBridge.Session
