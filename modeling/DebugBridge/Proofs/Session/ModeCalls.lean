import DebugBridge.Proofs.Session.Addresses

/-!
# Commands sent to the backend

A session sets the mode of a context at two kinds of events only: when it has just attached to the
context, and when an accepted request to go on has its turn.
-/

namespace DebugBridge

/-- A call that sets the mode of a context, and the activity that makes it. -/
structure ModeCall where
  activity : Nat
  suffix : String
  mode : ResumeMode
deriving DecidableEq

def Effect.modeCall? : Effect → Option ModeCall
  | .call activity (.setResumeMode suffix mode) => some { activity, suffix, mode }
  | _ => none

/-- The calls of this kind among the effects, in order. -/
def modeCallsIn (effects : List Effect) : List ModeCall := effects.filterMap Effect.modeCall?

@[simp]
theorem modeCallsIn_append (first second : List Effect) :
    modeCallsIn (first ++ second) = modeCallsIn first ++ modeCallsIn second :=
  List.filterMap_append

theorem mem_modeCallsIn_iff {effects : List Effect} {call : ModeCall} :
    call ∈ modeCallsIn effects ↔
      .setResumeMode call.suffix call.mode ∈ callsOf call.activity effects := by
  simp only [modeCallsIn, callsOf, List.mem_filterMap]
  constructor
  · rintro ⟨effect, heffect, hcall⟩
    unfold Effect.modeCall? at hcall
    split at hcall
    · cases hcall
      exact ⟨_, heffect, by simp⟩
    · cases hcall
  · rintro ⟨effect, heffect, hcall⟩
    split at hcall
    · next activity made =>
        obtain ⟨hsame, hmade⟩ := Option.ite_none_right_eq_some.mp hcall
        refine ⟨_, heffect, ?_⟩
        rw [hsame, Option.some.inj hmade]
        rfl
    · cases hcall

namespace Session

theorem modeCallsIn_of_noCall {effects : List Effect}
    (hwithin : ∀ effect ∈ effects, effect.Within noCall) : modeCallsIn effects = [] := by
  rw [modeCallsIn, List.filterMap_eq_nil_iff]
  intro effect heffect
  cases effect with
  | call activity made => exact (hwithin _ heffect).elim
  | send message => rfl
  | log record => rfl
  | ready activity => rfl
  | sleepUntil activity deadline => rfl
  | forget activity => rfl

/-- The command that follows an attach. -/
def entryCall? (session : Session) (attachment : Attachment) : Option ModeCall :=
  (session.contexts.address? attachment.thread).map fun address =>
    { activity := attachment.activity, suffix := address.suffix,
      mode := attachment.launched.entryMode }

/-- The command that an event sends. -/
def modeCall? (session : Session) (event : SessionEvent) : Option ModeCall :=
  match event with
  | .wake id =>
    match session.activity? id with
    | some (.resume _ _ suffix mode .starting) => some { activity := id, suffix, mode }
    | _ => none
  | _ => (session.attachment? event).bind session.entryCall?

/-! ## Primitive turns -/

section Primitives

variable (session : Session)

@[simp]
theorem modeCallsIn_send (message : Message) : modeCallsIn (send message session).2 = [] := by
  rw [modeCallsIn, List.filterMap_eq_nil_iff]
  intro effect heffect
  simp only [send, Outbox.number, List.mem_append, List.mem_map, List.mem_singleton] at heffect
  rcases heffect with ⟨record, -, rfl⟩ | rfl
  · rfl
  · rfl

@[simp]
theorem modeCallsIn_log (level : LogLevel) (message : String)
    (fields : List (String × LogValue)) :
    modeCallsIn (log level message fields session).2 = [] := rfl

@[simp]
theorem modeCallsIn_emit (name : String) (body : Option Json) :
    modeCallsIn (emit name body session).2 = [] :=
  modeCallsIn_send session _

@[simp]
theorem modeCallsIn_finish (id : Nat) : modeCallsIn (finish id session).2 = [] := rfl

end Primitives

/-! ## Activities -/

section Activities

variable {id : Nat} {session : Session}

theorem modeCallsIn_attachTick (thread : Int) (timer : Timer) (now : Nat) :
    modeCallsIn (attachTick id thread timer now session).2 = [] := by
  unfold attachTick
  split
  · split <;> rfl
  · rfl

/-- A context that there is gets its command. -/
theorem modeCallsIn_resumeAttached (session : Session) (thread : Int) (mode : ResumeMode) :
    modeCallsIn (resumeAttached id thread mode session).2 =
      ((session.contexts.address? thread).map fun address =>
        ({ activity := id, suffix := address.suffix, mode } : ModeCall)).toList := by
  unfold resumeAttached Contexts.startCommand Contexts.address?
  cases hget : session.contexts.get? thread <;> rfl

theorem modeCallsIn_attach {launched : Launch} (hlaunched : session.launched = some launched)
    (thread : Int) (info : ResourceInfo) :
    modeCallsIn (attach id thread info session).2 =
      (session.entryCall? { activity := id, thread, info, launched }).toList := by
  rw [attach_eq hlaunched, Turn.andThen_snd, modeCallsIn_append,
    modeCallsIn_of_noCall (spawns_attachPrelude _ _ _ _ _ _).effects, modeCallsIn_resumeAttached,
    contexts_attachPrelude, contexts_installPaths]
  rfl

theorem modeCallsIn_attachInfo {thread : Int} {timer : Timer} {suffix : String}
    {outcome : Outcome}
    (hactivity : session.activity? id = some (.attach thread (.asking timer suffix))) (now : Nat) :
    modeCallsIn (attachInfo id thread timer now (BackendClient.info suffix outcome) session).2 =
      (session.modeCall? (.outcome id outcome)).toList := by
  rcases attachInfo_cases hactivity outcome now with
    ⟨info, launched, hlaunched, hsome, hturn⟩ |
      ⟨hnone, ⟨-, hturn⟩ | ⟨level, message, fields, hturn⟩⟩
  · simp only [hturn, modeCall?, hsome, Option.bind_some]
    exact modeCallsIn_attach hlaunched thread info
  · simp only [hturn, modeCall?, hnone, Option.bind_none, Option.toList_none, modeCallsIn_finish]
  · simp only [hturn, modeCall?, hnone, Option.bind_none, Option.toList_none, Turn.andThen_snd,
      modeCallsIn_append, modeCallsIn_log, modeCallsIn_attachTick, List.append_nil]

theorem modeCallsIn_answerLaunch (session : Session) (thread : Int) (name : String)
    (result : Except BackendFault Unit) :
    modeCallsIn (answerLaunch thread name result session).2 = [] :=
  modeCallsIn_of_noCall (silent_answerLaunch thread name result session).effects

theorem modeCallsIn_answerResume (session : Session) (request : Request) (thread : Int)
    (mode : ResumeMode) (result : Except BackendFault Unit) :
    modeCallsIn (answerResume request thread mode result session).2 = [] :=
  modeCallsIn_of_noCall (silent_answerResume request thread mode result session).effects

theorem modeCallsIn_pollTick (session : Session) (timer : Timer) (now : Nat) :
    modeCallsIn (pollTick id timer now session).2 = [] := by
  unfold pollTick
  split
  · split <;> rfl
  · rfl

theorem modeCallsIn_pollNext (session : Session) (timer : Timer) (now : Nat)
    (others : List PlannedPoll) : modeCallsIn (pollNext id timer now others session).2 = [] := by
  cases others with
  | nil => exact modeCallsIn_pollTick session timer now
  | cons target others => rfl

theorem modeCallsIn_pollState (session : Session) (target : PlannedPoll)
    (reply : Except BackendFault RunState) :
    modeCallsIn (pollState target reply session).2 = [] := by
  cases reply with
  | error fault => rfl
  | ok state =>
      simp only [pollState]
      split
      · simp only [Turn.andThen_snd, modeCallsIn_append, modeCallsIn_log, modeCallsIn_emit]
        rfl
      · rfl

theorem modeCallsIn_endSync (session : Session) : modeCallsIn (endSync id session).2 = [] := by
  simp only [endSync, Turn.andThen_snd, modeCallsIn_append, modeCallsIn_finish, List.nil_append]
  split <;> rfl

theorem modeCallsIn_beginSync (session : Session) :
    modeCallsIn (beginSync id session).2 = [] := by
  unfold beginSync
  split
  · exact modeCallsIn_endSync session
  · rfl

theorem modeCallsIn_startSync (session : Session) :
    modeCallsIn (startSync id session).2 = [] := by
  unfold startSync
  split
  · exact modeCallsIn_beginSync _
  · rfl

theorem modeCallsIn_syncNext (session : Session) (plan : SyncPlan) :
    modeCallsIn (syncNext id plan session).2 = [] := by
  obtain ⟨rest, total⟩ := plan
  cases rest with
  | nil =>
      rw [syncNext, Turn.andThen_snd, modeCallsIn_append, modeCallsIn_endSync]
      rfl
  | cons entry rest => rfl

theorem modeCallsIn_syncCleared (session : Session) (plan : SyncPlan)
    (result : Except BackendFault Unit) :
    modeCallsIn (syncCleared id plan result session).2 = [] := by
  cases result with
  | ok _ => exact modeCallsIn_syncNext session plan
  | error fault =>
      rw [syncCleared, Turn.andThen_snd, modeCallsIn_append, modeCallsIn_log, modeCallsIn_endSync]
      rfl

theorem modeCallsIn_syncSet (session : Session) (file : String) (line : Int) (plan : SyncPlan)
    (result : Except BackendFault Unit) :
    modeCallsIn (syncSet id file line plan result session).2 = [] := by
  cases result with
  | ok _ => exact modeCallsIn_syncNext session plan
  | error fault =>
      rw [syncSet, Turn.andThen_snd, modeCallsIn_append, modeCallsIn_log, modeCallsIn_syncNext]
      rfl

theorem modeCallsIn_evaluateTick (session : Session) (request : Request) (expression : String)
    (deadline now : Nat) :
    modeCallsIn (evaluateTick id request expression deadline now session).2 = [] := by
  unfold evaluateTick
  split <;> rfl

theorem modeCallsIn_evaluateSubmitted (session : Session) (request : Request)
    (expression : String) (now : Nat) (result : Except BackendFault Unit) :
    modeCallsIn (evaluateSubmitted id request expression now result session).2 = [] := by
  simp only [evaluateSubmitted, Turn.andThen_snd, modeCallsIn_append, modeCallsIn_evaluateTick]
  cases result <;> rfl

theorem modeCallsIn_answerEvaluate (session : Session) (request : Request)
    (result : Except BackendFault String) :
    modeCallsIn (answerEvaluate request result session).2 = [] :=
  modeCallsIn_of_noCall (silent_answerEvaluate request result session).effects

theorem modeCallsIn_answerRestart (session : Session) (request : Request)
    (result : Except BackendFault Unit) :
    modeCallsIn (answerRestart request result session).2 = [] :=
  modeCallsIn_of_noCall (silent_answerRestart request result session).effects

theorem modeCallsIn_wakeActivity {activity : Activity}
    (hactivity : session.activity? id = some activity) (now : Nat) :
    modeCallsIn (wakeActivity now id session activity session).2 =
      (session.modeCall? (.wake id)).toList := by
  simp only [modeCall?, hactivity]
  cases activity with
  | attach thread stage =>
      cases stage with
      | starting => exact modeCallsIn_attachTick thread _ now
      | waiting timer => exact modeCallsIn_attachTick thread timer now
      | asking timer suffix => rfl
      | resuming name suffix mode => rfl
  | poll stage =>
      cases stage with
      | starting => exact modeCallsIn_pollTick session _ now
      | waiting timer => exact modeCallsIn_pollTick session timer now
      | asking timer target others => rfl
  | sync stage =>
      cases stage with
      | starting => exact modeCallsIn_startSync session
      | queued => rfl
      | admitted => exact modeCallsIn_beginSync session
      | clearing plan => rfl
      | setting file line plan => rfl
  | resume request thread suffix mode stage => cases stage <;> rfl
  | evaluate request expression stage =>
      cases stage with
      | starting => rfl
      | submitting => rfl
      | sleeping deadline => exact modeCallsIn_evaluateTick session request expression deadline now
      | reading => rfl
  | restart request resource stage => cases stage <;> rfl

theorem modeCallsIn_outcomeActivity {activity : Activity}
    (hactivity : session.activity? id = some activity) (now : Nat) (outcome : Outcome) :
    modeCallsIn (outcomeActivity now id outcome activity session).2 =
      (session.modeCall? (.outcome id outcome)).toList := by
  have hother : ∀ {effects : List Effect}, (∀ thread timer suffix,
      activity ≠ .attach thread (.asking timer suffix)) → modeCallsIn effects = [] →
      modeCallsIn effects = (session.modeCall? (.outcome id outcome)).toList := by
    intro effects hasking hnil
    have hnone := attachment?_eq_none_of_ne hactivity hasking outcome
    simp only [hnil, modeCall?, hnone, Option.bind_none, Option.toList_none]
  cases activity with
  | attach thread stage =>
      cases stage with
      | starting => exact hother (by simp) rfl
      | waiting timer => exact hother (by simp) rfl
      | asking timer suffix => exact modeCallsIn_attachInfo hactivity now
      | resuming name suffix mode =>
          refine hother (by simp) ?_
          simp only [outcomeActivity, Turn.all_cons, Turn.all_nil, Turn.andThen_idle,
            Turn.andThen_snd, modeCallsIn_append, modeCallsIn_finish, modeCallsIn_answerLaunch,
            List.append_nil]
          rfl
  | poll stage =>
      refine hother (by simp) ?_
      cases stage with
      | starting => rfl
      | waiting timer => rfl
      | asking timer target others =>
          simp only [outcomeActivity, Turn.andThen_snd, modeCallsIn_append, modeCallsIn_pollState,
            modeCallsIn_pollNext, List.append_nil]
  | sync stage =>
      refine hother (by simp) ?_
      cases stage with
      | starting => rfl
      | queued => rfl
      | admitted => rfl
      | clearing plan => exact modeCallsIn_syncCleared session plan _
      | setting file line plan => exact modeCallsIn_syncSet session file line plan _
  | resume request thread suffix mode stage =>
      refine hother (by simp) ?_
      cases stage with
      | starting => rfl
      | calling =>
          simp only [outcomeActivity, Turn.all_cons, Turn.all_nil, Turn.andThen_idle,
            Turn.andThen_snd, modeCallsIn_append, modeCallsIn_finish, modeCallsIn_answerResume,
            List.append_nil]
          rfl
  | evaluate request expression stage =>
      refine hother (by simp) ?_
      cases stage with
      | starting => rfl
      | submitting => exact modeCallsIn_evaluateSubmitted session request expression now _
      | sleeping deadline => rfl
      | reading =>
          simp only [outcomeActivity, Turn.andThen_snd, modeCallsIn_append, modeCallsIn_finish,
            modeCallsIn_answerEvaluate, List.append_nil]
  | restart request resource stage =>
      refine hother (by simp) ?_
      cases stage with
      | starting => rfl
      | calling =>
          simp only [outcomeActivity, Turn.andThen_snd, modeCallsIn_append, modeCallsIn_finish,
            modeCallsIn_answerRestart, List.append_nil]

end Activities

/-! ## Any event -/

section Steps

variable {session : Session}

/-- A request that is handled sends no command itself. -/
theorem modeCallsIn_request (hwf : WellFormed session) (now : Nat) (request : Request) :
    modeCallsIn (react now (.request request) session).2 = [] := by
  rw [List.eq_nil_iff_forall_not_mem]
  intro call hcall
  have hnone := (reaction_react hwf now (.request request)).callsOf_request call.activity
  rw [mem_modeCallsIn_iff, hnone] at hcall
  cases hcall

/-- A step sends at most one command: the one that follows an attach, or that of a request. -/
theorem modeCallsIn_step (hwf : WellFormed session) (now : Nat) (event : SessionEvent) :
    modeCallsIn (step now event session).2 = (session.modeCall? event).toList := by
  have hreaped := modeCallsIn_of_noCall
    (reaped_reap ((reaction_react hwf now event).wellFormed hwf).table).effects
  rw [step, Turn.andThen_snd, modeCallsIn_append, hreaped, List.append_nil]
  cases event with
  | request request => exact modeCallsIn_request hwf now request
  | shutdown =>
      exact modeCallsIn_of_noCall (within_cancel _ _)
  | release => rfl
  | wake id =>
      cases hactivity : session.activity? id with
      | some activity =>
          simp only [react, withActivity, hactivity]
          exact modeCallsIn_wakeActivity hactivity now
      | none => simp [react, withActivity, modeCall?, hactivity, modeCallsIn]
  | outcome id outcome =>
      cases hactivity : session.activity? id with
      | some activity =>
          simp only [react, withActivity, hactivity]
          exact modeCallsIn_outcomeActivity hactivity now outcome
      | none => simp [react, withActivity, modeCall?, attachment?, hactivity, modeCallsIn]

end Steps

end Session

end DebugBridge
