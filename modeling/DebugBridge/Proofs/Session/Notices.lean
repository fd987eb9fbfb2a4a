import DebugBridge.Proofs.Session.Errands
import DebugBridge.Proofs.Session.Runs

/-!
# What a step tells the editor

For each event, the responses and events that the session sends at it, and what becomes of its
standing.
-/

namespace DebugBridge.Session

/-- A context that is attached to, and by whom. -/
structure Attachment where
  activity : Nat
  thread : Int
  info : ResourceInfo
  launched : Launch

/-- The context that an event attaches to: the reply to a request for its resource info tells that
the resource has started. -/
def attachment? (session : Session) : SessionEvent → Option Attachment
  | .outcome id outcome =>
    match session.activity? id, session.launched with
    | some (.attach thread (.asking _ suffix)), some launched =>
      match BackendClient.info suffix outcome with
      | .ok info =>
        if info.hasStarted then some { activity := id, thread, info, launched } else none
      | .error _ => none
    | _, _ => none
  | _ => none

/-- What the editor is told of an attachment. -/
def attachmentEvent (session : Session) (attachment : Attachment) : Message :=
  .console ("Attached to " ++ session.contextName attachment.thread ++
    " context of resource '" ++ attachment.info.name.getD "" ++ "'")

def initializedEvent : Event := { name := "initialized" }

def stoppedEvent (thread : Int) : Event := { name := "stopped", body := stoppedBody thread }

def terminatedEvent : Event := { name := "terminated" }

/-- The launch that still waits for its response. -/
def pendingLaunch? (session : Session) : Option Request := session.launched.bind (·.pending)

/-- What the editor is told when a call has an outcome. -/
def outcomeNotices (session : Session) (event : SessionEvent) (outcome : Outcome) :
    Activity → List Notice
  | .attach _ (.asking _ _) =>
    match session.attachment? event with
    | some attachment =>
      (if session.initializedSent then [] else [.event initializedEvent]) ++
        [(session.attachmentEvent attachment).notice]
    | none => []
  | .attach _ (.resuming _ suffix mode) =>
    session.pendingLaunch?.toList.map fun request =>
      .reply (request.reply (BackendClient.accepted (.setResumeMode suffix mode) outcome).isOk)
  | .poll (.asking _ target _) =>
    match BackendClient.runState target.suffix outcome with
    | .ok state =>
      if (session.contexts.applyPoll target state).1 then [.event (stoppedEvent target.thread)]
      else []
    | .error _ => []
  | .resume request _ suffix mode .calling =>
    [.reply (request.reply (BackendClient.accepted (.setResumeMode suffix mode) outcome).isOk)]
  | .evaluate request _ .reading =>
    if (BackendClient.evalResult outcome).isOk then [.reply (request.reply true)] else []
  | .restart request resource .calling =>
    [.reply (request.reply
      (BackendClient.accepted (.serverCommand (restartCommand resource)) outcome).isOk)]
  | _ => []

/-- What the editor is told at an event. -/
def notices (session : Session) (event : SessionEvent) : List Notice :=
  match event with
  | .request request =>
    (if (session.errand? request).isSome then []
      else [.reply (request.reply (session.accepts request))]) ++
      if request.command ∈ endCommands then [.event terminatedEvent] else []
  | .outcome id outcome =>
    match session.activity? id with
    | some activity => session.outcomeNotices event outcome activity
    | none => []
  | _ => []

/-! ## What attaches -/

section Attachment

variable {id : Nat} {session : Session}

/-- Only what asks for its context can attach to it. -/
theorem attachment?_eq_none_of_ne {activity : Activity}
    (hactivity : session.activity? id = some activity)
    (hasking : ∀ thread timer suffix, activity ≠ .attach thread (.asking timer suffix))
    (outcome : Outcome) : session.attachment? (.outcome id outcome) = none := by
  simp only [attachment?, hactivity]
  split
  · next heq _ => exact absurd (Option.some.inj heq) (hasking _ _ _)
  · rfl

/-- A reply to a request for the resource info attaches, or ends what asked for a session that is
not launched, or is asked for again. -/
theorem attachInfo_cases {thread : Int} {timer : Timer} {suffix : String}
    (hactivity : session.activity? id = some (.attach thread (.asking timer suffix)))
    (outcome : Outcome) (now : Nat) :
    (∃ info launched, session.launched = some launched ∧
        session.attachment? (.outcome id outcome) =
          some { activity := id, thread, info, launched } ∧
        attachInfo id thread timer now (BackendClient.info suffix outcome) session =
          attach id thread info session) ∨
      session.attachment? (.outcome id outcome) = none ∧
        (session.launched = none ∧
            attachInfo id thread timer now (BackendClient.info suffix outcome) session =
              finish id session ∨
          ∃ level message fields,
            attachInfo id thread timer now (BackendClient.info suffix outcome) session =
              (log level message fields).andThen (attachTick id thread timer now) session) := by
  cases hreply : BackendClient.info suffix outcome with
  | error fault =>
      have hnone : session.attachment? (.outcome id outcome) = none := by
        cases hlaunched : session.launched <;> simp [attachment?, hactivity, hlaunched, hreply]
      refine .inr ⟨hnone, .inr ?_⟩
      simp only [attachInfo]
      split
      · exact ⟨_, _, _, rfl⟩
      · exact ⟨_, _, _, rfl⟩
  | ok info =>
      by_cases hstarted : info.hasStarted = true
      · simp only [attachInfo, hstarted, if_true]
        cases hlaunched : session.launched with
        | none =>
            refine .inr ⟨by simp [attachment?, hactivity, hlaunched], .inl ⟨rfl, ?_⟩⟩
            simp only [attach, hlaunched]
        | some launched =>
            refine .inl ⟨info, launched, rfl, ?_, rfl⟩
            simp [attachment?, hactivity, hlaunched, hreply, hstarted]
      · have hnone : session.attachment? (.outcome id outcome) = none := by
          cases hlaunched : session.launched <;>
            simp [attachment?, hactivity, hlaunched, hreply, hstarted]
        refine .inr ⟨hnone, .inr ⟨.trace, "resource not started yet", [threadField thread], ?_⟩⟩
        simp only [attachInfo, hstarted]
        rfl

end Attachment

section Requests

variable {request : Request} {session : Session}

theorem errandFor_eq_none_of_refused {command : String} {fault : RequestFault}
    (hrefused : handler command request session = .error fault) :
    session.errandFor command request = none := by
  have hresume : ∀ mode, resume mode request session = .error fault →
      session.resumeErrand? mode request = none := by
    intro mode hfault
    rcases resume_eq mode request session with ⟨thread, context, -, -, haccepted⟩ | ⟨hnone, -⟩
    · rw [haccepted] at hfault
      cases hfault
    · simp [resumeErrand?, hnone]
  unfold errandFor
  split
  · rcases launch_eq request session with ⟨arguments, serverPath, -, -, -, haccepted⟩ | ⟨hnone, -⟩
    · exact absurd (hrefused.symm.trans haccepted) (by simp)
    · exact hnone
  · rcases restart_eq request session with ⟨resource, -, haccepted⟩ | ⟨hnone, -⟩
    · exact absurd (hrefused.symm.trans haccepted) (by simp)
    · rw [hnone]
      rfl
  · exact hresume _ hrefused
  · exact hresume _ hrefused
  · exact hresume _ hrefused
  · rcases evaluate_eq request session with ⟨expression, -, haccepted⟩ | ⟨hnone, -⟩
    · exact absurd (hrefused.symm.trans haccepted) (by simp)
    · exact hnone
  · rfl

theorem not_mem_endCommands_of_refused {command : String} {fault : RequestFault}
    (hrefused : handler command request session = .error fault) : command ∉ endCommands := by
  intro hends
  simp only [endCommands, List.mem_cons, List.not_mem_nil, or_false] at hends
  rcases hends with rfl | rfl
  · cases hrefused
  · cases hrefused

theorem noticesIn_handle (request : Request) (session : Session) :
    noticesIn (handle request session).2 = session.notices (.request request) := by
  cases hout : handler request.command request session with
  | ok out =>
      have haccepts : session.accepts request = true := by
        rw [accepts, hout]
        rfl
      simp only [handle, hout, notices, haccepts]
      exact noticesIn_handler rfl hout
  | error fault =>
      have haccepts : session.accepts request = false := by
        rw [accepts, hout]
        rfl
      have hnone : session.errand? request = none := errandFor_eq_none_of_refused hout
      have hgoes := not_mem_endCommands_of_refused hout
      simp only [handle, hout, notices, haccepts, hnone, hgoes, if_false]
      rw [refuse, Turn.andThen_snd, noticesIn_append, noticesIn_respondFailure]
      rfl

end Requests

/-! ## Activities -/

section Activities

variable {id : Nat} {session : Session}

theorem noticesIn_attachTick (thread : Int) (timer : Timer) (now : Nat) :
    noticesIn (attachTick id thread timer now session).2 = [] := by
  unfold attachTick
  split
  · split <;> rfl
  · rfl

theorem noticesIn_startPolling (session : Session) :
    noticesIn (startPolling session).2 = [] := by
  unfold startPolling
  split <;> rfl

theorem noticesIn_resumeAttached (thread : Int) (mode : ResumeMode) :
    noticesIn (resumeAttached id thread mode session).2 = [] := by
  unfold resumeAttached
  split <;> rfl

theorem noticesIn_pollTick (timer : Timer) (now : Nat) :
    noticesIn (pollTick id timer now session).2 = [] := by
  unfold pollTick
  split
  · split <;> rfl
  · rfl

theorem noticesIn_pollNext (timer : Timer) (now : Nat) (others : List PlannedPoll) :
    noticesIn (pollNext id timer now others session).2 = [] := by
  cases others with
  | nil => exact noticesIn_pollTick timer now
  | cons target others => rfl

theorem noticesIn_endSync : noticesIn (endSync id session).2 = [] := by
  simp only [endSync, Turn.andThen_snd, noticesIn_append, noticesIn_finish, List.nil_append]
  split <;> rfl

theorem noticesIn_beginSync : noticesIn (beginSync id session).2 = [] := by
  unfold beginSync
  split
  · exact noticesIn_endSync
  · rfl

theorem noticesIn_startSync : noticesIn (startSync id session).2 = [] := by
  unfold startSync
  split
  · exact noticesIn_beginSync
  · rfl

theorem noticesIn_syncNext (plan : SyncPlan) : noticesIn (syncNext id plan session).2 = [] := by
  obtain ⟨rest, total⟩ := plan
  cases rest with
  | nil =>
      rw [syncNext, Turn.andThen_snd, noticesIn_append, noticesIn_endSync]
      rfl
  | cons entry rest => rfl

theorem noticesIn_syncCleared (plan : SyncPlan) (result : Except BackendFault Unit) :
    noticesIn (syncCleared id plan result session).2 = [] := by
  cases result with
  | ok _ => exact noticesIn_syncNext plan
  | error fault =>
      rw [syncCleared, Turn.andThen_snd, noticesIn_append, noticesIn_log, noticesIn_endSync]
      rfl

theorem noticesIn_syncSet (file : String) (line : Int) (plan : SyncPlan)
    (result : Except BackendFault Unit) :
    noticesIn (syncSet id file line plan result session).2 = [] := by
  cases result with
  | ok _ => exact noticesIn_syncNext plan
  | error fault =>
      rw [syncSet, Turn.andThen_snd, noticesIn_append, noticesIn_log, noticesIn_syncNext]
      rfl

theorem noticesIn_evaluateTick (request : Request) (expression : String) (deadline now : Nat) :
    noticesIn (evaluateTick id request expression deadline now session).2 = [] := by
  unfold evaluateTick
  split <;> rfl

theorem noticesIn_evaluateSubmitted (request : Request) (expression : String) (now : Nat)
    (result : Except BackendFault Unit) :
    noticesIn (evaluateSubmitted id request expression now result session).2 = [] := by
  simp only [evaluateSubmitted, Turn.andThen_snd, noticesIn_append, noticesIn_evaluateTick]
  cases result <;> rfl

theorem noticesIn_wakeActivity (now : Nat) (activity : Activity) :
    noticesIn (wakeActivity now id session activity session).2 = [] := by
  cases activity with
  | attach thread stage =>
      cases stage with
      | starting => exact noticesIn_attachTick thread _ now
      | waiting timer => exact noticesIn_attachTick thread timer now
      | asking timer suffix => rfl
      | resuming name suffix mode => rfl
  | poll stage =>
      cases stage with
      | starting => exact noticesIn_pollTick _ now
      | waiting timer => exact noticesIn_pollTick timer now
      | asking timer target others => rfl
  | sync stage =>
      cases stage with
      | starting => exact noticesIn_startSync
      | queued => rfl
      | admitted => exact noticesIn_beginSync
      | clearing plan => rfl
      | setting file line plan => rfl
  | resume request thread suffix mode stage => cases stage <;> rfl
  | evaluate request expression stage =>
      cases stage with
      | starting => rfl
      | submitting => rfl
      | sleeping deadline => exact noticesIn_evaluateTick request expression deadline now
      | reading => rfl
  | restart request resource stage => cases stage <;> rfl

theorem noticesIn_announceInitialized (session : Session) :
    noticesIn (announceInitialized session).2 =
      if session.initializedSent then [] else [.event initializedEvent] := by
  unfold announceInitialized
  split
  · rfl
  · exact noticesIn_emit _ _ _

theorem initializedSent_installPaths (launched : Launch) (resourceName resourcePath : String) :
    (installPaths launched resourceName resourcePath session).1.initializedSent =
      session.initializedSent := by
  simp only [installPaths, Turn.change_apply]
  split <;> rfl

theorem standing_startPolling (session : Session) :
    (startPolling session).1.standing = session.standing := by
  unfold startPolling
  split <;> rfl

/-- An attach tells the editor of itself, and the first one of the session's being ready. -/
theorem noticesIn_attach {launched : Launch} (hlaunched : session.launched = some launched)
    (thread : Int) (info : ResourceInfo) :
    noticesIn (attach id thread info session).2 =
      (if session.initializedSent then [] else [.event initializedEvent]) ++
        [(session.attachmentEvent { activity := id, thread, info, launched }).notice] := by
  have hsync : ∀ base : Session, noticesIn
      ((if session.paths.isSome then Turn.idle else spawn (.sync .starting)) base).2 = [] := by
    intro base
    split <;> rfl
  have hpolling : ∀ base : Session,
      (startPolling base).1.initializedSent = base.initializedSent :=
    fun base => congrArg Standing.initializedSent (standing_startPolling base)
  have hlog : ∀ (level : LogLevel) (message : String) (fields : List (String × LogValue))
      (base : Session), (log level message fields base).1.initializedSent =
        base.initializedSent := fun _ _ _ _ => rfl
  simp only [attach, hlaunched, Turn.all_cons, Turn.all_nil, Turn.andThen_idle,
    Turn.andThen_snd, noticesIn_append, noticesIn_log, noticesIn_startPolling,
    noticesIn_announceInitialized, noticesIn_send, noticesIn_resumeAttached, hsync, hpolling, hlog,
    initializedSent_installPaths, List.append_nil, List.nil_append]
  rfl

/-- A reply to a request for the resource info is news once the resource has started. -/
theorem noticesIn_attachInfo {thread : Int} {timer : Timer} {suffix : String} {outcome : Outcome}
    (hactivity : session.activity? id = some (.attach thread (.asking timer suffix))) (now : Nat) :
    noticesIn (attachInfo id thread timer now (BackendClient.info suffix outcome) session).2 =
      session.outcomeNotices (.outcome id outcome) outcome
        (.attach thread (.asking timer suffix)) := by
  rcases attachInfo_cases hactivity outcome now with
    ⟨info, launched, hlaunched, hsome, hturn⟩ |
      ⟨hnone, ⟨-, hturn⟩ | ⟨level, message, fields, hturn⟩⟩
  · simp only [hturn, outcomeNotices, hsome]
    exact noticesIn_attach hlaunched thread info
  · simp only [hturn, outcomeNotices, hnone, noticesIn_finish]
  · simp only [hturn, outcomeNotices, hnone, Turn.andThen_snd, noticesIn_append, noticesIn_log,
      noticesIn_attachTick, List.append_nil]

theorem noticesIn_answerLaunch (thread : Int) (name : String)
    (result : Except BackendFault Unit) :
    noticesIn (answerLaunch thread name result session).2 =
      session.pendingLaunch?.toList.map fun request => .reply (request.reply result.isOk) := by
  have hpending : session.takePending.1 = session.pendingLaunch? := by
    unfold takePending pendingLaunch?
    cases session.launched <;> rfl
  rw [← hpending, answerLaunch]
  generalize session.takePending = taken
  obtain ⟨pending, base⟩ := taken
  cases result with
  | ok _ =>
      cases pending with
      | none => rfl
      | some request => exact noticesIn_respond base request none
  | error fault =>
      cases pending with
      | none => rfl
      | some request =>
          simp only [Turn.andThen_snd, noticesIn_append, noticesIn_log, noticesIn_respondFailure]
          rfl

theorem noticesIn_pollState (target : PlannedPoll) (reply : Except BackendFault RunState) :
    noticesIn (pollState target reply session).2 =
      match reply with
      | .ok state =>
        if (session.contexts.applyPoll target state).1 then [.event (stoppedEvent target.thread)]
        else []
      | .error _ => [] := by
  cases reply with
  | error fault => rfl
  | ok state =>
      by_cases haccepted : (session.contexts.applyPoll target state).1 = true
      · simp only [pollState, haccepted, if_true, Turn.andThen_snd, noticesIn_append,
          noticesIn_log, noticesIn_emit]
        rfl
      · simp only [pollState, haccepted]
        rfl

theorem noticesIn_answerResume (request : Request) (thread : Int) (mode : ResumeMode)
    (result : Except BackendFault Unit) :
    noticesIn (answerResume request thread mode result session).2 =
      [.reply (request.reply result.isOk)] := by
  cases result with
  | ok _ => exact noticesIn_respond session request _
  | error fault =>
      simp only [answerResume, Turn.andThen_snd, noticesIn_append, noticesIn_log,
        noticesIn_respondFailure]
      rfl

theorem noticesIn_answerEvaluate (request : Request) (result : Except BackendFault String) :
    noticesIn (answerEvaluate request result session).2 =
      if result.isOk then [.reply (request.reply true)] else [] := by
  cases result with
  | ok text => exact noticesIn_respond session request _
  | error fault => rfl

theorem noticesIn_answerRestart (request : Request) (result : Except BackendFault Unit) :
    noticesIn (answerRestart request result session).2 = [.reply (request.reply result.isOk)] := by
  cases result with
  | ok _ => exact noticesIn_respond session request _
  | error fault =>
      simp only [answerRestart, Turn.andThen_snd, noticesIn_append, noticesIn_log,
        noticesIn_respondFailure]
      rfl

theorem noticesIn_outcomeActivity {activity : Activity}
    (hactivity : session.activity? id = some activity) (now : Nat) (outcome : Outcome) :
    noticesIn (outcomeActivity now id outcome activity session).2 =
      session.outcomeNotices (.outcome id outcome) outcome activity := by
  cases activity with
  | attach thread stage =>
      cases stage with
      | starting => rfl
      | waiting timer => rfl
      | asking timer suffix => exact noticesIn_attachInfo hactivity now
      | resuming name suffix mode =>
          simp only [outcomeActivity, Turn.all_cons, Turn.all_nil, Turn.andThen_idle,
            Turn.andThen_snd, noticesIn_append, noticesIn_finish, noticesIn_answerLaunch,
            List.append_nil]
          rfl
  | poll stage =>
      cases stage with
      | starting => rfl
      | waiting timer => rfl
      | asking timer target others =>
          simp only [outcomeActivity, Turn.andThen_snd, noticesIn_append, noticesIn_pollState,
            noticesIn_pollNext, List.append_nil]
          rfl
  | sync stage =>
      cases stage with
      | starting => rfl
      | queued => rfl
      | admitted => rfl
      | clearing plan => exact noticesIn_syncCleared plan _
      | setting file line plan => exact noticesIn_syncSet file line plan _
  | resume request thread suffix mode stage =>
      cases stage with
      | starting => rfl
      | calling =>
          simp only [outcomeActivity, Turn.all_cons, Turn.all_nil, Turn.andThen_idle,
            Turn.andThen_snd, noticesIn_append, noticesIn_finish, noticesIn_answerResume,
            List.append_nil]
          rfl
  | evaluate request expression stage =>
      cases stage with
      | starting => rfl
      | submitting => exact noticesIn_evaluateSubmitted request expression now _
      | sleeping deadline => rfl
      | reading =>
          simp only [outcomeActivity, Turn.andThen_snd, noticesIn_append, noticesIn_finish,
            noticesIn_answerEvaluate, List.append_nil]
          rfl
  | restart request resource stage =>
      cases stage with
      | starting => rfl
      | calling =>
          simp only [outcomeActivity, Turn.andThen_snd, noticesIn_append, noticesIn_finish,
            noticesIn_answerRestart, List.append_nil]
          rfl

end Activities

/-! ## Any event -/

/-- What a step tells the editor. -/
theorem noticesIn_step (session : Session) (now : Nat) (event : SessionEvent) :
    noticesIn (step now event session).2 = session.notices event := by
  have hreap : ∀ base : Session, noticesIn (reap base).2 = [] := by
    intro base
    unfold reap
    split
    · rfl
    · exact noticesIn_cancel base _
  rw [step, Turn.andThen_snd, noticesIn_append, hreap, List.append_nil]
  cases event with
  | request request => exact noticesIn_handle request session
  | shutdown => exact noticesIn_shutdown session
  | release => rfl
  | wake id =>
      simp only [react, withActivity]
      split
      · exact noticesIn_wakeActivity now _
      · rfl
  | outcome id outcome =>
      cases hactivity : session.activity? id with
      | some activity =>
          simp only [react, withActivity, notices, hactivity]
          exact noticesIn_outcomeActivity hactivity now outcome
      | none =>
          simp only [react, withActivity, notices, hactivity]
          rfl

end DebugBridge.Session
