import DebugBridge.Proofs.Session.Inquiries
import DebugBridge.Proofs.Session.Notices

/-!
# How a session comes along

What a session knows of its debuggee changes at three kinds of events only: an accepted launch, a
context that is attached to, and the outcome of the command that follows.  What the editor has
asked to see of it changes at its requests for frames and for scopes.
-/

namespace DebugBridge.Session

/-- The outcome of the command that lets a context go on after attaching to it. -/
def completesAttach (session : Session) : SessionEvent → Bool
  | .outcome id _ =>
    match session.activity? id with
    | some (.attach _ (.resuming _ _ _)) => true
    | _ => false
  | _ => false

namespace Standing

/-- The launch is accepted and waits for its response. -/
def launch (standing : Standing) (request : Request) : Errand → Standing
  | .launch arguments serverPath =>
    { standing with
      launched := some { serverPath, entryMode := arguments.entryMode, pending := request } }
  | _ => standing

/-- The first resource that is attached is kept. -/
def install (standing : Standing) (launched : Launch) (info : ResourceInfo) : Standing :=
  if standing.paths.isSome then standing
  else { standing with
    paths := some (.ofDirectories launched.serverPath standing.config.resourcesSubdir
      (info.path.getD ""))
    resourceName := some (info.name.getD "") }

def attach (standing : Standing) (attachment : Attachment) : Standing :=
  { standing.install attachment.launched attachment.info with initializedSent := true }

/-- The launch waits for no response any more. -/
def answer (standing : Standing) : Standing :=
  { standing with launched := standing.launched.map fun launched =>
      { launched with pending := none } }

end Standing

/-- A request for frames chooses a thread, and one for scopes is given handles. -/
def inspected (command : String) (session : Session) (request : Request) : Standing :=
  match command with
  | "stackTrace" =>
    { session.standing with
      shownThread := (session.resumedThread? request).or session.contexts.shownThread }
  | "scopes" =>
    match scopedFrame? request with
    | some frame =>
      { session.standing with handles := (allocateScopes frame Scope.all session.handles).2 }
    | none => session.standing
  | _ => session.standing

/-- An event for an activity attaches to a context or completes that, or changes nothing. -/
def attachedOn (session : Session) (event : SessionEvent) : Standing :=
  match session.attachment? event with
  | some attachment => session.standing.attach attachment
  | none => if session.completesAttach event then session.standing.answer else session.standing

/-- The standing after an event. -/
def standingAfter (session : Session) (event : SessionEvent) : Standing :=
  match event with
  | .request request =>
    match session.errand? request with
    | some errand => session.standing.launch request errand
    | none => session.inspected request.command request
  | _ => session.attachedOn event

/-! ## Requests -/

section Requests

variable {request : Request} {session : Session} {out : Session × List Effect}

theorem standing_spawnAttaches (session : Session) :
    (spawnAttaches session).1.standing = session.standing := by
  unfold spawnAttaches
  split
  · rfl
  · have hall := standing_spawns session (session.contexts.contexts.map fun context =>
      .attach context.thread .starting)
    rw [List.map_map] at hall
    exact hall

theorem standing_launch (hout : launch request session = .ok out) :
    ∃ errand, session.launchErrand? request = some errand ∧
      out.1.standing = session.standing.launch request errand := by
  rcases launch_eq request session with ⟨arguments, serverPath, -, -, herrand, haccepted⟩ |
      ⟨-, fault, hrefused⟩
  · refine ⟨_, herrand, ?_⟩
    rw [haccepted] at hout
    cases hout
    simp only [Turn.all_cons, Turn.all_nil, Turn.andThen_idle, Turn.andThen_fst,
      standing_spawnAttaches, standing_log]
    rfl
  · rw [hrefused] at hout
    cases hout

theorem standing_restart (hout : restart request session = .ok out) :
    ∃ errand, session.resourceName.map Errand.restart = some errand ∧
      out.1.standing = session.standing.launch request errand := by
  rcases restart_eq request session with ⟨resource, hresource, haccepted⟩ | ⟨-, fault, hrefused⟩
  · rw [haccepted] at hout
    cases hout
    exact ⟨.restart resource, by rw [hresource]; rfl, rfl⟩
  · rw [hrefused] at hout
    cases hout

theorem standing_evaluate (hout : evaluate request session = .ok out) :
    ∃ errand, evaluateErrand? request = some errand ∧
      out.1.standing = session.standing.launch request errand := by
  rcases evaluate_eq request session with ⟨expression, herrand, haccepted⟩ | ⟨-, fault, hrefused⟩
  · rw [haccepted] at hout
    cases hout
    exact ⟨.evaluate expression, herrand, rfl⟩
  · rw [hrefused] at hout
    cases hout

theorem standing_resume {mode : ResumeMode} (hout : resume mode request session = .ok out) :
    ∃ errand, session.resumeErrand? mode request = some errand ∧
      out.1.standing = session.standing.launch request errand := by
  rcases resume_eq mode request session with ⟨thread, context, hthread, hget, haccepted⟩ |
      ⟨-, fault, hrefused⟩
  · rw [haccepted] at hout
    cases hout
    exact ⟨.resume thread context.suffix mode, by simp [resumeErrand?, hthread, hget], rfl⟩
  · rw [hrefused] at hout
    cases hout

/-- Asking for frames or scopes changes nothing else of the standing. -/
theorem inspected_eq (command : String) (session : Session) (request : Request) :
    ∃ shownThread handles, session.inspected command request =
      { session.standing with shownThread, handles } := by
  unfold inspected
  split
  · exact ⟨_, _, rfl⟩
  · split <;> exact ⟨_, _, rfl⟩
  · exact ⟨_, _, rfl⟩

theorem standing_stackTrace (hout : stackTrace request session = .ok out) :
    out.1.standing = session.inspected "stackTrace" request := by
  rcases stackTrace_eq request session with ⟨thread, context, hthread, -, haccepted⟩ |
      ⟨-, fault, hrefused⟩
  · rw [haccepted] at hout
    cases hout
    simp only [inspected, hthread, Option.some_or]
    rfl
  · rw [hrefused] at hout
    cases hout

theorem standing_scopes (hout : Session.scopes request session = .ok out) :
    out.1.standing = session.inspected "scopes" request := by
  rcases scopes_eq request session with ⟨frame, hframe, haccepted⟩ | ⟨-, fault, hrefused⟩
  · rw [haccepted] at hout
    cases hout
    simp only [inspected, hframe]
    rfl
  · rw [hrefused] at hout
    cases hout

theorem standing_handler {command : String}
    (hout : handler command request session = .ok out) :
    out.1.standing = match session.errandFor command request with
      | some errand => session.standing.launch request errand
      | none => session.inspected command request := by
  have herrand : ∀ {errand? : Option Errand}, (∃ errand, errand? = some errand ∧
      out.1.standing = session.standing.launch request errand) →
      out.1.standing = match errand? with
        | some errand => session.standing.launch request errand
        | none => session.inspected command request := by
    rintro - ⟨errand, rfl, hstanding⟩
    exact hstanding
  unfold handler at hout
  split at hout
  · obtain ⟨arguments, -, hout⟩ := bind_eq_ok.mp hout
    cases hout
    rfl
  · exact herrand (standing_launch hout)
  · cases hout
    rfl
  · exact herrand (standing_restart hout)
  · obtain ⟨arguments, -, hout⟩ := bind_eq_ok.mp hout
    obtain ⟨path, -, hout⟩ := bind_eq_ok.mp hout
    have hnone : session.errandFor "setBreakpoints" request = none := rfl
    rw [hnone]
    by_cases hpaths : session.paths.isSome = true
    · simp only [hpaths, if_true] at hout
      cases hout
      rfl
    · simp only [hpaths] at hout
      cases hout
      rfl
  · cases hout
    rfl
  · exact standing_stackTrace hout
  · exact standing_scopes hout
  · obtain ⟨arguments, -, hout⟩ := bind_eq_ok.mp hout
    obtain ⟨reference, -, hout⟩ := bind_eq_ok.mp hout
    split at hout
    · cases hout
    · cases hout
      rfl
  · exact herrand (standing_resume hout)
  · exact herrand (standing_resume hout)
  · exact herrand (standing_resume hout)
  · exact herrand (standing_evaluate hout)
  · cases hout
    rfl
  · cases hout
    rfl
  · cases hout
    have hnone : session.errandFor command request = none := by
      unfold errandFor
      split <;> first | contradiction | rfl
    have hsame : session.inspected command request = session.standing := by
      unfold inspected
      split <;> first | contradiction | rfl
    rw [hnone]
    exact hsame.symm

/-- A refused request chooses no thread and is given no handles. -/
theorem inspected_of_refused {command : String} {fault : RequestFault}
    (hrefused : handler command request session = .error fault) :
    session.inspected command request = session.standing := by
  unfold inspected
  split
  · rcases stackTrace_eq request session with ⟨thread, context, -, -, haccepted⟩ | ⟨hnone, -⟩
    · exact absurd (haccepted.symm.trans hrefused) (by simp)
    · rw [hnone]
      rfl
  · rcases scopes_eq request session with ⟨frame, -, haccepted⟩ | ⟨hnone, -⟩
    · exact absurd (haccepted.symm.trans hrefused) (by simp)
    · rw [hnone]
  · rfl

theorem standing_handle (request : Request) (session : Session) :
    (handle request session).1.standing = session.standingAfter (.request request) := by
  cases hout : handler request.command request session with
  | ok out =>
      simp only [handle, hout, standingAfter]
      exact standing_handler hout
  | error fault =>
      have hnone : session.errand? request = none := errandFor_eq_none_of_refused hout
      simp only [handle, hout, standingAfter, hnone, inspected_of_refused hout]
      rfl

end Requests

/-! ## Activities -/

section Activities

variable {id : Nat} {session : Session}

theorem standing_attachTick (session : Session) (thread : Int) (timer : Timer) (now : Nat) :
    (attachTick id thread timer now session).1.standing = session.standing := by
  unfold attachTick
  split
  · split <;> rfl
  · rfl

/-- Whatever becomes of its contexts, a session keeps its standing with the thread shown. -/
theorem standing_of_contexts {contexts : Contexts}
    (hshown : contexts.shownThread = session.contexts.shownThread) :
    ({ session with contexts } : Session).standing = session.standing := by
  rw [standing, standing, hshown]

theorem standing_resumeAttached (session : Session) (thread : Int) (mode : ResumeMode) :
    (resumeAttached id thread mode session).1.standing = session.standing := by
  unfold resumeAttached
  split
  · rfl
  · next suffix contexts hstarted =>
      rw [standing_await]
      apply standing_of_contexts
      have hsame : (session.contexts.startCommand thread).2 = contexts :=
        congrArg Prod.snd hstarted
      rw [← hsame]
      rfl

theorem standing_pollTick (session : Session) (timer : Timer) (now : Nat) :
    (pollTick id timer now session).1.standing = session.standing := by
  unfold pollTick
  split
  · split <;> rfl
  · rfl

theorem standing_pollNext (session : Session) (timer : Timer) (now : Nat)
    (others : List PlannedPoll) :
    (pollNext id timer now others session).1.standing = session.standing := by
  cases others with
  | nil => exact standing_pollTick session timer now
  | cons target others => rfl

theorem standing_pollState (session : Session) (target : PlannedPoll)
    (reply : Except BackendFault RunState) :
    (pollState target reply session).1.standing = session.standing := by
  cases reply with
  | error fault => rfl
  | ok state =>
      have hshown : (session.contexts.applyPoll target state).2.shownThread =
          session.contexts.shownThread := by
        rw [Contexts.applyPoll_snd]
        split <;> rfl
      rw [← standing_of_contexts hshown]
      simp only [pollState]
      split <;> rfl

theorem standing_endSync (session : Session) :
    (endSync id session).1.standing = session.standing := by
  simp only [endSync, Turn.andThen_fst]
  split <;> rfl

theorem standing_beginSync (session : Session) :
    (beginSync id session).1.standing = session.standing := by
  unfold beginSync
  split
  · exact standing_endSync session
  · rfl

theorem standing_startSync (session : Session) :
    (startSync id session).1.standing = session.standing := by
  unfold startSync
  split
  · exact standing_beginSync _
  · rfl

theorem standing_syncNext (session : Session) (plan : SyncPlan) :
    (syncNext id plan session).1.standing = session.standing := by
  obtain ⟨rest, total⟩ := plan
  cases rest with
  | nil => exact standing_endSync _
  | cons entry rest => rfl

theorem standing_syncCleared (session : Session) (plan : SyncPlan)
    (result : Except BackendFault Unit) :
    (syncCleared id plan result session).1.standing = session.standing := by
  cases result with
  | ok _ => exact standing_syncNext session plan
  | error fault => exact standing_endSync _

theorem standing_syncSet (session : Session) (file : String) (line : Int) (plan : SyncPlan)
    (result : Except BackendFault Unit) :
    (syncSet id file line plan result session).1.standing = session.standing := by
  cases result with
  | ok _ => exact standing_syncNext session plan
  | error fault => exact standing_syncNext _ plan

theorem standing_evaluateTick (session : Session) (request : Request) (expression : String)
    (deadline now : Nat) :
    (evaluateTick id request expression deadline now session).1.standing = session.standing := by
  unfold evaluateTick
  split <;> rfl

theorem standing_evaluateSubmitted (session : Session) (request : Request) (expression : String)
    (now : Nat) (result : Except BackendFault Unit) :
    (evaluateSubmitted id request expression now result session).1.standing = session.standing := by
  simp only [evaluateSubmitted, Turn.andThen_fst, standing_evaluateTick]
  cases result <;> rfl

theorem standing_answerResume (session : Session) (request : Request) (thread : Int)
    (mode : ResumeMode) (result : Except BackendFault Unit) :
    (answerResume request thread mode result session).1.standing = session.standing := by
  cases result <;> rfl

theorem standing_answerEvaluate (session : Session) (request : Request)
    (result : Except BackendFault String) :
    (answerEvaluate request result session).1.standing = session.standing := by
  cases result <;> rfl

theorem standing_answerRestart (session : Session) (request : Request)
    (result : Except BackendFault Unit) :
    (answerRestart request result session).1.standing = session.standing := by
  cases result <;> rfl

theorem standing_wakeActivity (now : Nat) (activity : Activity) :
    (wakeActivity now id session activity session).1.standing = session.standing := by
  cases activity with
  | attach thread stage =>
      cases stage with
      | starting => exact standing_attachTick session thread _ now
      | waiting timer => exact standing_attachTick session thread timer now
      | asking timer suffix => rfl
      | resuming name suffix mode => rfl
  | poll stage =>
      cases stage with
      | starting => exact standing_pollTick session _ now
      | waiting timer => exact standing_pollTick session timer now
      | asking timer target others => rfl
  | sync stage =>
      cases stage with
      | starting => exact standing_startSync session
      | queued => rfl
      | admitted => exact standing_beginSync session
      | clearing plan => rfl
      | setting file line plan => rfl
  | resume request thread suffix mode stage => cases stage <;> rfl
  | evaluate request expression stage =>
      cases stage with
      | starting => rfl
      | submitting => rfl
      | sleeping deadline => exact standing_evaluateTick session request expression deadline now
      | reading => rfl
  | restart request resource stage => cases stage <;> rfl

theorem standing_installPaths (session : Session) (launched : Launch) (info : ResourceInfo) :
    (installPaths launched (info.name.getD "") (info.path.getD "") session).1.standing =
      session.standing.install launched info := by
  simp only [installPaths, Turn.change_apply, Standing.install]
  cases hpaths : session.paths <;> simp [standing, hpaths]

theorem standing_announceInitialized (session : Session) :
    (announceInitialized session).1.standing =
      { session.standing with initializedSent := true } := by
  unfold announceInitialized
  split
  · next hsent => simp [standing, hsent]
  · rfl

theorem standing_attach {launched : Launch} (hlaunched : session.launched = some launched)
    (thread : Int) (info : ResourceInfo) :
    (attach id thread info session).1.standing =
      session.standing.attach { activity := id, thread, info, launched } := by
  have hsync : ∀ base : Session,
      ((if session.paths.isSome then Turn.idle else spawn (.sync .starting)) base).1.standing =
        base.standing := by
    intro base
    split <;> rfl
  simp only [attach, hlaunched, Turn.all_cons, Turn.all_nil, Turn.andThen_idle, Turn.andThen_fst,
    standing_resumeAttached, hsync, standing_send, standing_announceInitialized,
    standing_startPolling, standing_log, standing_installPaths]
  rfl

/-- Nothing changes before the resource has started. -/
theorem standing_attachInfo {thread : Int} {timer : Timer} {suffix : String} {outcome : Outcome}
    (hactivity : session.activity? id = some (.attach thread (.asking timer suffix))) (now : Nat) :
    (attachInfo id thread timer now (BackendClient.info suffix outcome) session).1.standing =
      match session.attachment? (.outcome id outcome) with
      | some attachment => session.standing.attach attachment
      | none => session.standing := by
  rcases attachInfo_cases hactivity outcome now with
    ⟨info, launched, hlaunched, hsome, hturn⟩ |
      ⟨hnone, ⟨-, hturn⟩ | ⟨level, message, fields, hturn⟩⟩
  · simp only [hturn, hsome]
    exact standing_attach hlaunched thread info
  · simp only [hturn, hnone, standing_finish]
  · simp only [hturn, hnone, Turn.andThen_fst, standing_attachTick, standing_log]

theorem standing_answerLaunch (session : Session) (thread : Int) (name : String)
    (result : Except BackendFault Unit) :
    (answerLaunch thread name result session).1.standing = session.standing.answer := by
  have htaken : session.takePending.2.standing = session.standing.answer := by
    unfold takePending Standing.answer
    cases hlaunched : session.launched <;> simp [standing, hlaunched]
  rw [← htaken, answerLaunch]
  generalize session.takePending = taken
  obtain ⟨pending, base⟩ := taken
  cases result <;> cases pending <;> rfl

theorem standing_outcomeActivity {activity : Activity}
    (hactivity : session.activity? id = some activity) (now : Nat) (outcome : Outcome) :
    (outcomeActivity now id outcome activity session).1.standing =
      session.standingAfter (.outcome id outcome) := by
  have hother : ∀ {after : Session}, (∀ thread timer suffix,
      activity ≠ .attach thread (.asking timer suffix)) →
      (∀ thread name suffix mode, activity ≠ .attach thread (.resuming name suffix mode)) →
      after.standing = session.standing →
      after.standing = session.standingAfter (.outcome id outcome) := by
    intro after hasking hresuming hafter
    have hnone := attachment?_eq_none_of_ne hactivity hasking outcome
    have hincomplete : session.completesAttach (.outcome id outcome) = false := by
      simp only [completesAttach, hactivity]
      split
      · next heq => exact absurd (Option.some.inj heq) (hresuming _ _ _ _)
      · rfl
    simp only [standingAfter, attachedOn, hnone, hincomplete]
    exact hafter
  cases activity with
  | attach thread stage =>
      cases stage with
      | starting => exact hother (by simp) (by simp) rfl
      | waiting timer => exact hother (by simp) (by simp) rfl
      | asking timer suffix =>
          have hincomplete : session.completesAttach (.outcome id outcome) = false := by
            simp [completesAttach, hactivity]
          simp only [outcomeActivity, standing_attachInfo hactivity, standingAfter,
            attachedOn, hincomplete]
          rfl
      | resuming name suffix mode =>
          have hnone : session.attachment? (.outcome id outcome) = none := by
            simp [attachment?, hactivity]
          have hcomplete : session.completesAttach (.outcome id outcome) = true := by
            simp [completesAttach, hactivity]
          simp only [outcomeActivity, Turn.all_cons, Turn.all_nil, Turn.andThen_idle,
            Turn.andThen_fst, standing_finish, standing_answerLaunch, standingAfter,
            attachedOn, hnone, hcomplete, if_true]
          rfl
  | poll stage =>
      refine hother (by simp) (by simp) ?_
      cases stage with
      | starting => rfl
      | waiting timer => rfl
      | asking timer target others =>
          simp only [outcomeActivity, Turn.andThen_fst, standing_pollNext, standing_pollState]
  | sync stage =>
      refine hother (by simp) (by simp) ?_
      cases stage with
      | starting => rfl
      | queued => rfl
      | admitted => rfl
      | clearing plan => exact standing_syncCleared session plan _
      | setting file line plan => exact standing_syncSet session file line plan _
  | resume request thread suffix mode stage =>
      refine hother (by simp) (by simp) ?_
      cases stage with
      | starting => rfl
      | calling =>
          simp only [outcomeActivity, Turn.all_cons, Turn.all_nil, Turn.andThen_idle,
            Turn.andThen_fst, standing_finish, standing_answerResume]
          rfl
  | evaluate request expression stage =>
      refine hother (by simp) (by simp) ?_
      cases stage with
      | starting => rfl
      | submitting => exact standing_evaluateSubmitted session request expression now _
      | sleeping deadline => rfl
      | reading =>
          simp only [outcomeActivity, Turn.andThen_fst, standing_finish, standing_answerEvaluate]
  | restart request resource stage =>
      refine hother (by simp) (by simp) ?_
      cases stage with
      | starting => rfl
      | calling =>
          simp only [outcomeActivity, Turn.andThen_fst, standing_finish, standing_answerRestart]

end Activities

/-- The standing of a session after a step. -/
theorem standing_step (session : Session) (now : Nat) (event : SessionEvent) :
    (step now event session).1.standing = session.standingAfter event := by
  have hreap : ∀ base : Session, (reap base).1.standing = base.standing := by
    intro base
    unfold reap
    split <;> rfl
  rw [step, Turn.andThen_fst, hreap]
  cases event with
  | request request => exact standing_handle request session
  | shutdown => rfl
  | release => rfl
  | wake id =>
      simp only [react, withActivity]
      split
      · exact standing_wakeActivity now _
      · rfl
  | outcome id outcome =>
      cases hactivity : session.activity? id with
      | some activity =>
          simp only [react, withActivity, hactivity]
          exact standing_outcomeActivity hactivity now outcome
      | none =>
          simp [react, withActivity, standingAfter, attachedOn, attachment?, completesAttach,
            hactivity]

end DebugBridge.Session
