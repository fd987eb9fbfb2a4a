import DebugBridge.Proofs.Session.Reaction

/-!
# Reactions of activities

What an activity does when it goes on or its call has an outcome is one of the reactions.
-/

namespace DebugBridge.Session

section Local

variable {id : Nat} {session : Session}

theorem local_attachTick (htable : TableOk session) (thread : Int) (timer : Timer) (now : Nat) :
    Local id BackendCall.KeepsBreakpoints (fun next => next.role = .attaching thread) session
      (attachTick id thread timer now session) := by
  unfold attachTick
  split
  · cases session.contexts.get? thread with
    | none => exact local_finish htable
    | some context =>
        apply local_await htable
        · rfl
        · exact not_false
  · refine local_sleep htable ?_ _
    rfl

theorem local_evaluateTick (htable : TableOk session) (request : Request) (expression : String)
    (deadline now : Nat) :
    Local id BackendCall.KeepsBreakpoints (fun next => next.role = .serving) session
      (evaluateTick id request expression deadline now session) := by
  unfold evaluateTick
  split
  · apply local_await htable
    · rfl
    · exact not_false
  · refine local_sleep htable ?_ _
    rfl

theorem local_askTarget (htable : TableOk session) (timer : Timer) (target : PlannedPoll)
    (others : List PlannedPoll) :
    Local id BackendCall.KeepsBreakpoints (fun next => next.role = .polling) session
      (askTarget id timer target others session) := by
  apply local_await htable
  · rfl
  · exact not_false

theorem local_pollTick (htable : TableOk session) (timer : Timer) (now : Nat) :
    Local id BackendCall.KeepsBreakpoints (fun next => next.role = .polling) session
      (pollTick id timer now session) := by
  unfold pollTick
  split
  · cases session.contexts.plannedPolls with
    | nil =>
        refine local_sleep htable ?_ _
        rfl
    | cons target others => exact local_askTarget htable _ target others
  · refine local_sleep htable ?_ _
    rfl

theorem local_pollNext (htable : TableOk session) (timer : Timer) (now : Nat)
    (others : List PlannedPoll) :
    Local id BackendCall.KeepsBreakpoints (fun next => next.role = .polling) session
      (pollNext id timer now others session) := by
  cases others with
  | nil => exact local_pollTick htable timer now
  | cons target others => exact local_askTarget htable timer target others

end Local

/-! ## Attaching -/

section Attach

variable {id : Nat} {session : Session}

theorem spawns_startPolling (session : Session) :
    Spawns (if session.hasPoller then [] else [.poll .starting]) session
      (startPolling session) := by
  unfold startPolling
  split
  · exact Spawns.of_silent (Silent.refl session)
  · exact Spawns.silent_andThen (silent_log _ _ _ session) (spawns_spawn _ _)

theorem silent_announceInitialized (session : Session) :
    Silent session (announceInitialized session) := by
  unfold announceInitialized
  split
  · exact Silent.refl session
  · have hchange : Silent session ({ session with initializedSent := true }, []) :=
      ⟨rfl, rfl, rfl, rfl, by simp⟩
    exact hchange.rebase (silent_emit (by simp) none _)

/-- What an attach does between installing the paths and beginning the command. -/
def attachPrelude (thread : Int) (name resourceName resourcePath : String) (isSyncing : Bool) :
    Turn :=
  (log .info "attached to backend context" [
    threadField thread,
    ("resource", .shown resourceName),
    ("resource_path", .shown resourcePath)]).andThen
  (startPolling.andThen
  (announceInitialized.andThen
  ((send (.console
    ("Attached to " ++ name ++ " context of resource '" ++ resourceName ++ "'"))).andThen
  (if isSyncing then Turn.idle else spawn (.sync .starting)))))

theorem spawns_attachPrelude (thread : Int) (name resourceName resourcePath : String)
    (isSyncing : Bool) (session : Session) :
    Spawns ((if session.hasPoller then [] else [.poll .starting]) ++
        (if isSyncing then [] else [.sync .starting])) session
      (attachPrelude thread name resourceName resourcePath isSyncing session) := by
  apply Spawns.silent_andThen (silent_log _ _ _ session)
  apply Spawns.andThen (spawns_startPolling _)
  apply Spawns.silent_andThen (silent_announceInitialized _)
  apply Spawns.silent_andThen (silent_console _ _)
  cases isSyncing with
  | true => exact Spawns.of_silent (Silent.refl _)
  | false => exact spawns_spawn _ _

theorem eq_of_mem_attachPrelude {hasPoller isSyncing : Bool} {activity : Activity}
    (hactivity : activity ∈ (if hasPoller then [] else [.poll .starting]) ++
      (if isSyncing then [] else [Activity.sync .starting])) :
    activity = .poll .starting ∨ activity = .sync .starting := by
  rcases List.mem_append.mp hactivity with hpoller | hsync
  · exact .inl (List.mem_singleton.mp (List.mem_ite_nil_left.mp hpoller).2)
  · exact .inr (List.mem_singleton.mp (List.mem_ite_nil_left.mp hsync).2)

theorem attach_eq {launched : Launch} (hlaunched : session.launched = some launched)
    (thread : Int) (info : ResourceInfo) :
    attach id thread info session =
      (attachPrelude thread (session.contextName thread) (info.name.getD "")
        (info.path.getD "") session.paths.isSome).andThen
        (resumeAttached id thread launched.entryMode)
        (installPaths launched (info.name.getD "") (info.path.getD "") session).1 := by
  have hinstall : ∀ turn : Turn,
      (installPaths launched (info.name.getD "") (info.path.getD "")).andThen turn session =
        turn (installPaths launched (info.name.getD "") (info.path.getD "") session).1 :=
    fun _ => rfl
  simp only [attach, hlaunched, Turn.all_cons, Turn.all_nil, Turn.andThen_idle, hinstall,
    attachPrelude, Turn.andThen_assoc]

theorem silent_installPaths (session : Session) (launched : Launch)
    (resourceName resourcePath : String) :
    ∃ paths, (session.paths = none ∨ session.paths = some paths) ∧
      Silent { session with paths := some paths }
        ((installPaths launched resourceName resourcePath session).1, []) := by
  cases hpaths : session.paths with
  | none =>
      refine ⟨.ofDirectories launched.serverPath session.config.resourcesSubdir resourcePath,
        .inl rfl, ?_⟩
      simp only [installPaths, Turn.change_apply, hpaths]
      exact ⟨rfl, rfl, rfl, rfl, by simp⟩
  | some paths =>
      refine ⟨paths, .inr rfl, ?_⟩
      have hsame : { session with paths := some paths } = session := by rw [← hpaths]
      simp only [installPaths, Turn.change_apply, hpaths, Option.isSome_some, if_true, hsame]
      exact Silent.refl session

theorem resumeAttached_eq {thread : Int} {context : ExecutionContext}
    (hget : session.contexts.get? thread = some context) (mode : ResumeMode) :
    resumeAttached id thread mode session =
      await id (.attach thread (.resuming (session.contextName thread) context.suffix mode))
        (.setResumeMode context.suffix mode)
        { session with contexts := (session.contexts.startCommand thread).2 } := by
  simp only [resumeAttached, Contexts.startCommand, hget, Option.map_some]

theorem reaction_attach {outcome : Outcome} {thread : Int} {timer : Timer} {suffix : String}
    {info : ResourceInfo} (hwf : WellFormed session)
    (hactivity : session.activity? id = some (.attach thread (.asking timer suffix)))
    (hreply : BackendClient.info suffix outcome = .ok info) (hstarted : info.hasStarted = true) :
    Reaction session (.outcome id outcome) (attach id thread info session) := by
  cases hlaunched : session.launched with
  | none =>
      have hturn : attach id thread info session = finish id session := by
        rw [attach, hlaunched]
      rw [hturn]
      have hplain : Plain session (.outcome id outcome) :=
        ⟨rfl, by simp [begunCommand?, hactivity, hreply, hlaunched],
          by simp [endedCommand?, hactivity]⟩
      exact .moved (.inr ⟨outcome, rfl⟩) hactivity (by simp [Activity.role])
        (by simp [Activity.role]) hplain (local_finish hwf.table) (by simp [Activity.role])
  | some launched =>
      obtain ⟨context, hget⟩ :=
        Contexts.exists_get?_of_mem_threads (hwf.known id _ thread hactivity rfl)
      obtain ⟨paths, hpaths, hinstalled⟩ :=
        silent_installPaths session launched (info.name.getD "") (info.path.getD "")
      rw [attach_eq hlaunched]
      generalize (installPaths launched (info.name.getD "") (info.path.getD "") session).1 =
        installed at hinstalled ⊢
      have hprelude := Spawns.rebase hinstalled (spawns_attachPrelude thread
        (session.contextName thread) (info.name.getD "") (info.path.getD "") session.paths.isSome
        installed)
      have hpoller : installed.hasPoller = session.hasPoller := by
        rw [hasPoller, hasPoller, hinstalled.activities]
      rw [hpoller] at hprelude
      generalize hmid : attachPrelude thread (session.contextName thread) (info.name.getD "")
        (info.path.getD "") session.paths.isSome installed = prelude at hprelude
      have hbase : TableOk { session with paths := some paths } := hwf.table.congr rfl rfl
      have htable : TableOk prelude.1 := hprelude.table hbase
      have hmidGet : prelude.1.contexts.get? thread = some context := by
        rw [Contexts.get?_congr (congrArg Backdrop.contexts hprelude.backdrop)]
        exact hget
      have hmidActivity :
          prelude.1.activity? id = some (.attach thread (.asking timer suffix)) := by
        rw [hprelude.activity? hbase, if_pos (hwf.table.lt_of_activity? hactivity)]
        exact hactivity
      have hturn : (attachPrelude thread (session.contextName thread) (info.name.getD "")
          (info.path.getD "") session.paths.isSome).andThen
            (resumeAttached id thread launched.entryMode) installed =
          ((resumeAttached id thread launched.entryMode prelude.1).1,
            prelude.2 ++ (resumeAttached id thread launched.entryMode prelude.1).2) := by
        rw [Turn.andThen, hmid]
      have hbegun : session.begunCommand? (.outcome id outcome) = some (id, thread) := by
        simp [begunCommand?, hactivity, hreply, hstarted, hlaunched]
      rw [hturn, resumeAttached_eq hmidGet]
      refine .attached hactivity hbegun hpaths hprelude hget (local_await ?_ ?_ rfl) ?_
      · exact htable.congr rfl rfl
      · rfl
      · exact @isSome_activity?_put { prelude.1 with
          contexts := (prelude.1.contexts.startCommand thread).2 } id _ hmidActivity _

/-- Until the resource has started the session asks again. -/
theorem reaction_attachInfo {outcome : Outcome} {thread : Int} {timer : Timer} {suffix : String}
    (hwf : WellFormed session)
    (hactivity : session.activity? id = some (.attach thread (.asking timer suffix)))
    (now : Nat) :
    Reaction session (.outcome id outcome)
      (attachInfo id thread timer now (BackendClient.info suffix outcome) session) := by
  have hagain : session.begunCommand? (.outcome id outcome) = none → ∀ {notice : Turn},
      Silent session (notice session) → Reaction session (.outcome id outcome)
        (notice.andThen (attachTick id thread timer now) session) := by
    intro hbegun notice hnotice
    have hplain : Plain session (.outcome id outcome) :=
      ⟨rfl, hbegun, by simp [endedCommand?, hactivity]⟩
    exact .moved (.inr ⟨outcome, rfl⟩) hactivity (by simp [Activity.role])
      (by simp [Activity.role]) hplain
      (hnotice.andThen_local (local_attachTick (hnotice.table hwf.table) thread timer now))
      (by simp [Activity.role])
  cases hreply : BackendClient.info suffix outcome with
  | ok info =>
      by_cases hstarted : info.hasStarted = true
      · simp only [attachInfo, hstarted, if_true]
        exact reaction_attach hwf hactivity hreply hstarted
      · simp only [attachInfo, hstarted]
        exact hagain (by simp [begunCommand?, hactivity, hreply, hstarted])
          (silent_log _ _ _ session)
  | error fault =>
      have hbegun : session.begunCommand? (.outcome id outcome) = none := by
        simp [begunCommand?, hactivity, hreply]
      simp only [attachInfo]
      split
      · exact hagain hbegun (silent_log _ _ _ session)
      · exact hagain hbegun (silent_log _ _ _ session)

end Attach

/-! ## Ends of commands -/

section Commands

variable {id : Nat} {session : Session}

theorem silent_answerLaunch (thread : Int) (name : String) (result : Except BackendFault Unit)
    (session : Session) : Silent session (answerLaunch thread name result session) := by
  have htake : Silent session (session.takePending.2, []) := by
    unfold takePending
    split
    · exact Silent.refl session
    · exact ⟨rfl, rfl, rfl, rfl, by simp⟩
  apply htake.rebase
  unfold answerLaunch
  generalize session.takePending = taken
  obtain ⟨pending, base⟩ := taken
  cases result with
  | ok _ =>
      cases pending with
      | none => exact Silent.refl base
      | some request => exact silent_respond request none base
  | error fault =>
      cases pending with
      | none => exact silent_log _ _ _ base
      | some request =>
          exact (silent_log _ _ _ base).andThen (silent_respondFailure request _ _)

theorem silent_answerResume (request : Request) (thread : Int) (mode : ResumeMode)
    (result : Except BackendFault Unit) (session : Session) :
    Silent session (answerResume request thread mode result session) := by
  cases result with
  | ok _ => exact silent_respond request _ session
  | error fault =>
      exact (silent_log _ _ _ session).andThen (silent_respondFailure request _ _)

/-- However a command ends, its context learns of it. -/
theorem reaction_endCommand {event : SessionEvent} {thread : Int} {answer : Turn}
    (htable : TableOk session) (hended : session.endedCommand? event = some (id, thread))
    (hanswer : ∀ base, Silent base (answer base)) :
    Reaction session event (Turn.all [endCommand thread, answer, finish id] session) := by
  have hturn : Turn.all [endCommand thread, answer, finish id] session =
      answer.andThen (finish id)
        { session with contexts := session.contexts.endCommand thread } := by
    rw [Turn.all_cons, Turn.all_cons, Turn.all_cons, Turn.all_nil, Turn.andThen_idle]
    rfl
  rw [hturn]
  refine .commandEnded hended ((hanswer _).andThen_local (local_finish ?_))
  exact (hanswer _).table (htable.congr rfl rfl)

end Commands

/-! ## Polls -/

section Polls

variable {id : Nat} {session : Session}

theorem reports_stopped (thread : Int) (session : Session) :
    Reports thread session ((log .debug "context paused" [threadField thread]).andThen
      (emit "stopped" (some (stoppedBody thread))) session) where
  backdrop := rfl
  syncTurns := rfl
  activities := rfl
  nextActivity := rfl
  stops other := by
    have hlog := stopsOf_eq_zero
      (silent_log .debug "context paused" [threadField thread] session).effects other
    rw [Turn.andThen_snd, stopsOf_append, hlog, Nat.zero_add, emit, send, stopsOf_append,
      stopsOf_logs, Nat.zero_add, stopsOf_send, Outbox.number, Message.stoppedThread?_stopped]
    simp [eq_comm]
  calls activity made := by
    simp [emit, send, log]

theorem reports_pollState {target : PlannedPoll} {state : RunState} {session : Session}
    (haccepted : (session.contexts.applyPoll target state).1 = true) :
    Reports target.thread
      { session with contexts := (session.contexts.applyPoll target state).2 }
      (pollState target (.ok state) session) := by
  have hturn : pollState target (.ok state) session =
      (log .debug "context paused" [threadField target.thread]).andThen
        (emit "stopped" (some (stoppedBody target.thread)))
        { session with contexts := (session.contexts.applyPoll target state).2 } := by
    simp only [pollState, haccepted, if_true]
  rw [hturn]
  exact reports_stopped target.thread _

/-- A reply to a poll pauses its context, once, or is no news. -/
theorem pollState_cases (target : PlannedPoll) (reply : Except BackendFault RunState)
    (session : Session) :
    Silent session (pollState target reply session) ∨
      ∃ state, reply = .ok state ∧ (session.contexts.applyPoll target state).1 = true ∧
        Reports target.thread
          { session with contexts := (session.contexts.applyPoll target state).2 }
          (pollState target reply session) := by
  cases reply with
  | error fault => exact .inl (silent_log _ _ _ session)
  | ok state =>
      by_cases haccepted : (session.contexts.applyPoll target state).1 = true
      · exact .inr ⟨state, rfl, haccepted, reports_pollState haccepted⟩
      · have hsame : (session.contexts.applyPoll target state).2 = session.contexts := by
          rw [Contexts.applyPoll_snd, if_neg haccepted]
        have hturn : pollState target (.ok state) session = (session, []) := by
          simp only [pollState, haccepted, hsame]
          rfl
        rw [hturn]
        exact .inl (Silent.refl session)

theorem reaction_pollState {outcome : Outcome} {timer : Timer} {target : PlannedPoll}
    {others : List PlannedPoll} (htable : TableOk session)
    (hactivity : session.activity? id = some (.poll (.asking timer target others))) (now : Nat) :
    Reaction session (.outcome id outcome)
      ((pollState target (BackendClient.runState target.suffix outcome)).andThen
        (pollNext id timer now others) session) := by
  rcases pollState_cases target (BackendClient.runState target.suffix outcome) session with
    hsilent | ⟨state, hreply, haccepted, hreport⟩
  · exact .ticked (.inr ⟨outcome, rfl⟩) hactivity
      (hsilent.andThen_local (local_pollNext (hsilent.table htable) timer now others))
  · refine .paused hactivity hreply haccepted hreport (local_pollNext ?_ timer now others)
    exact (htable.congr rfl rfl).congr hreport.activities hreport.nextActivity

end Polls

/-! ## Any activity -/

section Any

variable {id : Nat} {session : Session}

theorem local_same (htable : TableOk session) {activity : Activity}
    (hactivity : session.activity? id = some activity) {allowed : BackendCall → Prop}
    {mine : Activity → Prop} (hmine : mine activity) :
    Local id allowed mine session (session, []) := by
  refine local_idle htable fun found hfound => ?_
  rw [hactivity, Option.some.injEq] at hfound
  exact hfound ▸ hmine

theorem reaction_wake (hwf : WellFormed session) {activity : Activity}
    (hactivity : session.activity? id = some activity) (now : Nat) :
    Reaction session (.wake id) (wakeActivity now id session activity session) := by
  have hmoved : ∀ {out}, activity.role ≠ .polling → activity.role ≠ .syncing →
      Local id BackendCall.KeepsBreakpoints (fun next => next.role = activity.role) session out →
      (∀ thread, activity.role = .commanding thread → (out.1.activity? id).isSome) →
      Reaction session (.wake id) out :=
    fun hpolling hsyncing hlocal hpresent =>
      .moved (.inl rfl) hactivity hpolling hsyncing ⟨rfl, rfl, rfl⟩ hlocal hpresent
  have hidle := fun {mine : Activity → Prop} (hmine : mine activity) =>
    @local_same id session hwf.table activity hactivity BackendCall.KeepsBreakpoints mine hmine
  have hstill : (session.activity? id).isSome = true := Option.isSome_of_eq_some hactivity
  cases activity with
  | attach thread stage =>
      apply hmoved
      · cases stage <;> simp [Activity.role]
      · cases stage <;> simp [Activity.role]
      · cases stage with
        | starting => exact local_attachTick hwf.table thread _ now
        | waiting timer => exact local_attachTick hwf.table thread timer now
        | asking timer suffix => exact hidle rfl
        | resuming name suffix mode => exact hidle rfl
      · intro commanded hrole
        cases stage with
        | starting => cases hrole
        | waiting timer => cases hrole
        | asking timer suffix => cases hrole
        | resuming name suffix mode => exact hstill
  | poll stage =>
      refine .ticked (.inl rfl) hactivity ?_
      cases stage with
      | starting => exact local_pollTick hwf.table _ now
      | waiting timer => exact local_pollTick hwf.table timer now
      | asking timer target others => exact hidle rfl
  | sync stage =>
      exact .synced (.inl rfl) (syncStage?_eq_some_iff.mpr hactivity)
        (wakeActivity_sync_move hwf.syncs hactivity now)
  | resume request thread suffix mode stage =>
      refine hmoved (by simp [Activity.role]) (by simp [Activity.role]) ?_ fun _ _ => ?_
      · cases stage with
        | starting =>
            apply local_await hwf.table
            · rfl
            · exact not_false
        | calling => exact hidle rfl
      · cases stage with
        | starting => exact isSome_activity?_put hactivity _
        | calling => exact hstill
  | evaluate request expression stage =>
      refine hmoved (by simp [Activity.role]) (by simp [Activity.role]) ?_ (by simp [Activity.role])
      cases stage with
      | starting =>
          apply local_await hwf.table
          · rfl
          · exact not_false
      | submitting => exact hidle rfl
      | sleeping deadline => exact local_evaluateTick hwf.table request expression deadline now
      | reading => exact hidle rfl
  | restart request resource stage =>
      refine hmoved (by simp [Activity.role]) (by simp [Activity.role]) ?_ (by simp [Activity.role])
      cases stage with
      | starting =>
          apply local_await hwf.table
          · rfl
          · exact not_false
      | calling => exact hidle rfl

theorem silent_answerEvaluate (request : Request) (result : Except BackendFault String)
    (session : Session) : Silent session (answerEvaluate request result session) := by
  cases result with
  | ok _ => exact silent_respond request _ session
  | error fault => exact silent_log _ _ _ session

theorem silent_answerRestart (request : Request) (result : Except BackendFault Unit)
    (session : Session) : Silent session (answerRestart request result session) := by
  cases result with
  | ok _ => exact silent_respond request none session
  | error fault => exact (silent_log _ _ _ session).andThen (silent_respondFailure request _ _)

theorem local_evaluateSubmitted (htable : TableOk session) (request : Request)
    (expression : String) (now : Nat) (result : Except BackendFault Unit) :
    Local id BackendCall.KeepsBreakpoints (fun next => next.role = .serving) session
      (evaluateSubmitted id request expression now result session) := by
  cases result with
  | ok _ => exact local_evaluateTick htable request expression _ now
  | error fault =>
      have hnotice := silent_log .warn "failed to submit expression" [faultField fault] session
      exact hnotice.andThen_local
        (local_evaluateTick (hnotice.table htable) request expression _ now)

theorem reaction_outcome (hwf : WellFormed session) {activity : Activity}
    (hactivity : session.activity? id = some activity) (now : Nat) (outcome : Outcome) :
    Reaction session (.outcome id outcome)
      (outcomeActivity now id outcome activity session) := by
  have hmoved : ∀ {out}, activity.role ≠ .polling → activity.role ≠ .syncing →
      Plain session (.outcome id outcome) →
      Local id BackendCall.KeepsBreakpoints (fun next => next.role = activity.role) session out →
      (∀ thread, activity.role = .commanding thread → (out.1.activity? id).isSome) →
      Reaction session (.outcome id outcome) out :=
    fun hpolling hsyncing hplain hlocal hpresent =>
      .moved (.inr ⟨outcome, rfl⟩) hactivity hpolling hsyncing hplain hlocal hpresent
  have hidle := fun {mine : Activity → Prop} (hmine : mine activity) =>
    @local_same id session hwf.table activity hactivity BackendCall.KeepsBreakpoints mine hmine
  have hignored : activity.role ≠ .polling → activity.role ≠ .syncing →
      Plain session (.outcome id outcome) →
      Reaction session (.outcome id outcome) (session, []) :=
    fun hpolling hsyncing hplain => hmoved hpolling hsyncing hplain (hidle rfl)
      fun _ _ => Option.isSome_of_eq_some hactivity
  cases activity with
  | attach thread stage =>
      cases stage with
      | starting =>
          exact hignored (by simp [Activity.role]) (by simp [Activity.role])
            ⟨rfl, by simp [begunCommand?, hactivity], by simp [endedCommand?, hactivity]⟩
      | waiting timer =>
          exact hignored (by simp [Activity.role]) (by simp [Activity.role])
            ⟨rfl, by simp [begunCommand?, hactivity], by simp [endedCommand?, hactivity]⟩
      | asking timer suffix => exact reaction_attachInfo hwf hactivity now
      | resuming name suffix mode =>
          exact reaction_endCommand hwf.table (by simp [endedCommand?, hactivity])
            (silent_answerLaunch thread name _)
  | poll stage =>
      cases stage with
      | starting => exact .ticked (.inr ⟨outcome, rfl⟩) hactivity (hidle rfl)
      | waiting timer => exact .ticked (.inr ⟨outcome, rfl⟩) hactivity (hidle rfl)
      | asking timer target others => exact reaction_pollState hwf.table hactivity now
  | sync stage =>
      exact .synced (.inr ⟨outcome, rfl⟩) (syncStage?_eq_some_iff.mpr hactivity)
        (outcomeActivity_sync_move now id outcome stage session)
  | resume request thread suffix mode stage =>
      cases stage with
      | starting =>
          exact hignored (by simp [Activity.role]) (by simp [Activity.role])
            ⟨rfl, by simp [begunCommand?, hactivity], by simp [endedCommand?, hactivity]⟩
      | calling =>
          exact reaction_endCommand hwf.table (by simp [endedCommand?, hactivity])
            (silent_answerResume request thread mode _)
  | evaluate request expression stage =>
      refine hmoved (by simp [Activity.role]) (by simp [Activity.role])
        ⟨rfl, by simp [begunCommand?, hactivity], by simp [endedCommand?, hactivity]⟩ ?_
        (by simp [Activity.role])
      cases stage with
      | starting => exact hidle rfl
      | submitting => exact local_evaluateSubmitted hwf.table request expression now _
      | sleeping deadline => exact hidle rfl
      | reading =>
          have hanswer := silent_answerEvaluate request (BackendClient.evalResult outcome) session
          exact hanswer.andThen_local (local_finish (hanswer.table hwf.table))
  | restart request resource stage =>
      refine hmoved (by simp [Activity.role]) (by simp [Activity.role])
        ⟨rfl, by simp [begunCommand?, hactivity], by simp [endedCommand?, hactivity]⟩ ?_
        (by simp [Activity.role])
      cases stage with
      | starting => exact hidle rfl
      | calling =>
          have hanswer := silent_answerRestart request
            (BackendClient.accepted (.serverCommand (restartCommand resource)) outcome) session
          exact hanswer.andThen_local (local_finish (hanswer.table hwf.table))

end Any

end DebugBridge.Session
