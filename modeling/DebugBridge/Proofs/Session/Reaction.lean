import DebugBridge.Proofs.Context.Store
import DebugBridge.Proofs.Session.SyncTurns
import DebugBridge.Session.Step

/-!
# Reactions

All that a session does at an event, said once: it answers silently, starts activities, moves one
activity, begins or ends a command, reports a pause, syncs breakpoints or shuts down.  What holds of
every run is proved from these cases, never from the handlers again.
-/

namespace DebugBridge

/-- What an activity is for. -/
inductive Role
  | attaching (thread : Int)
  /-- A command for the backend is outstanding. -/
  | commanding (thread : Int)
  | polling
  | syncing
  | serving
deriving DecidableEq

def Activity.role : Activity → Role
  | .attach thread (.resuming _ _ _) => .commanding thread
  | .attach thread _ => .attaching thread
  | .poll _ => .polling
  | .sync _ => .syncing
  | .resume _ thread _ _ _ => .commanding thread
  | .evaluate _ _ _ => .serving
  | .restart _ _ _ => .serving

theorem Activity.role_eq_polling_iff {activity : Activity} :
    activity.role = .polling ↔ ∃ stage, activity = .poll stage := by
  cases activity with
  | attach thread stage => cases stage <;> simp [role]
  | poll stage => simp [role]
  | sync stage => simp [role]
  | resume request thread suffix mode stage => simp [role]
  | evaluate request expression stage => simp [role]
  | restart request resource stage => simp [role]

theorem Activity.role_eq_syncing_iff {activity : Activity} :
    activity.role = .syncing ↔ ∃ stage, activity = .sync stage := by
  cases activity with
  | attach thread stage => cases stage <;> simp [role]
  | poll stage => simp [role]
  | sync stage => simp [role]
  | resume request thread suffix mode stage => simp [role]
  | evaluate request expression stage => simp [role]
  | restart request resource stage => simp [role]

/-- The event is for the activity with this number. -/
def SessionEvent.IsFor (id : Nat) (event : SessionEvent) : Prop :=
  event = .wake id ∨ ∃ outcome, event = .outcome id outcome

namespace Session

/-! ## Commands at events -/

def resumeCommands : List String := ["continue", "next", "stepIn"]

/-- The thread that a request to go on names, if there is such a context. -/
def resumedThread? (session : Session) (request : Request) : Option Int :=
  match decodeArguments Arguments.threadDecoder {} request with
  | .ok arguments =>
    arguments.thread.filter fun thread => (session.contexts.get? thread).isSome
  | .error _ => none

/-- The command that an event begins, and its thread: an accepted request to go on, or the command
that follows an attach. -/
def begunCommand? (session : Session) : SessionEvent → Option (Nat × Int)
  | .request request =>
    if request.command ∈ resumeCommands then
      (session.resumedThread? request).map fun thread => (session.nextActivity, thread)
    else none
  | .outcome id outcome =>
    match session.activity? id with
    | some (.attach thread (.asking _ suffix)) =>
      match BackendClient.info suffix outcome with
      | .ok info =>
        if info.hasStarted && session.launched.isSome then some (id, thread) else none
      | .error _ => none
    | _ => none
  | _ => none

/-- The command that an event answers, and its thread. -/
def endedCommand? (session : Session) : SessionEvent → Option (Nat × Int)
  | .outcome id _ =>
    match session.activity? id with
    | some (.attach thread (.resuming _ _ _)) => some (id, thread)
    | some (.resume _ thread _ _ .calling) => some (id, thread)
    | _ => none
  | _ => none

/-- A command is answered by an outcome for the activity that issued it. -/
theorem endedCommand?_eq_some {session : Session} {event : SessionEvent} {id : Nat} {thread : Int}
    (hended : session.endedCommand? event = some (id, thread)) :
    ∃ outcome activity, event = .outcome id outcome ∧ session.activity? id = some activity ∧
      activity.role = .commanding thread := by
  cases event with
  | outcome other outcome =>
      simp only [endedCommand?] at hended
      split at hended
      · next hactivity =>
          cases hended
          exact ⟨outcome, _, rfl, hactivity, rfl⟩
      · next hactivity =>
          cases hended
          exact ⟨outcome, _, rfl, hactivity, rfl⟩
      · cases hended
  | request request => cases hended
  | shutdown => cases hended
  | release => cases hended
  | wake other => cases hended

/-- Only activities that issued a command have one answered. -/
theorem endedCommand?_eq_none {session : Session} {event : SessionEvent} {id : Nat}
    (hfor : event.IsFor id)
    (hactivity : ∀ activity thread, session.activity? id = some activity →
      activity.role ≠ .commanding thread) : session.endedCommand? event = none := by
  cases hended : session.endedCommand? event with
  | none => rfl
  | some ended =>
      obtain ⟨outcome, activity, rfl, hfound, hrole⟩ := endedCommand?_eq_some hended
      rcases hfor with hwake | ⟨_, houtcome⟩
      · cases hwake
      · cases houtcome
        exact absurd hrole (hactivity activity ended.2 hfound)

/-- Of all activities, only one that asks for its resource begins a command. -/
theorem begunCommand?_eq_none {session : Session} {event : SessionEvent} {id : Nat}
    (hfor : event.IsFor id)
    (hactivity : ∀ activity thread, session.activity? id = some activity →
      activity.role ≠ .attaching thread) : session.begunCommand? event = none := by
  rcases hfor with rfl | ⟨outcome, rfl⟩
  · rfl
  · simp only [begunCommand?]
    split
    · next hfound => exact absurd rfl (hactivity _ _ hfound)
    · rfl

theorem syncStage?_eq_none_of_role {session : Session} {id : Nat} {activity : Activity}
    (hactivity : session.activity? id = some activity) (hrole : activity.role ≠ .syncing) :
    session.syncStage? id = none := by
  refine syncStage?_eq_none_of_ne fun stage hstage => ?_
  rw [hactivity, Option.some.injEq] at hstage
  exact hrole (Activity.role_eq_syncing_iff.mpr ⟨stage, hstage⟩)

/-- The event sets breakpoints and is not refused. -/
def setsBreakpoints (session : Session) : SessionEvent → Bool
  | .request request =>
    request.command = "setBreakpoints" && (setBreakpoints request session).isOk
  | _ => false

/-- The event neither begins nor answers a command, and sets no breakpoints. -/
structure Plain (session : Session) (event : SessionEvent) : Prop where
  sets : session.setsBreakpoints event = false
  begun : session.begunCommand? event = none
  ended : session.endedCommand? event = none

theorem plain_of_command {session : Session} {request : Request}
    (hsets : request.command ≠ "setBreakpoints") (hresumes : request.command ∉ resumeCommands) :
    Plain session (.request request) where
  sets := by simp [setsBreakpoints, hsets]
  begun := by simp [begunCommand?, hresumes]
  ended := rfl

theorem setsBreakpoints_of_isFor {session : Session} {event : SessionEvent} {id : Nat}
    (hfor : event.IsFor id) : session.setsBreakpoints event = false := by
  rcases hfor with rfl | ⟨outcome, rfl⟩
  · rfl
  · rfl

theorem plain_of_absent {session : Session} {event : SessionEvent} {id : Nat}
    (hfor : event.IsFor id) (hnone : session.activity? id = none) : Plain session event where
  sets := setsBreakpoints_of_isFor hfor
  begun := begunCommand?_eq_none hfor (by simp [hnone])
  ended := endedCommand?_eq_none hfor (by simp [hnone])

/-- Events for other activities than those that attach or command are plain. -/
theorem plain_of_role {session : Session} {event : SessionEvent} {id : Nat} {activity : Activity}
    (hfor : event.IsFor id) (hactivity : session.activity? id = some activity)
    (hcommanding : ∀ thread, activity.role ≠ .commanding thread)
    (hattaching : ∀ thread, activity.role ≠ .attaching thread) : Plain session event := by
  have hsame : ∀ found, session.activity? id = some found → found = activity := by
    intro found hfound
    rw [hactivity, Option.some.injEq] at hfound
    exact hfound.symm
  constructor
  · exact setsBreakpoints_of_isFor hfor
  · refine begunCommand?_eq_none hfor fun found thread hfound => ?_
    rw [hsame found hfound]
    exact hattaching thread
  · refine endedCommand?_eq_none hfor fun found thread hfound => ?_
    rw [hsame found hfound]
    exact hcommanding thread

/-! ## Reactions -/

/-- What holds between any two events. -/
structure WellFormed (session : Session) : Prop where
  table : TableOk session
  syncs : SyncsOk session
  threads : session.contexts.threads.Nodup
  /-- Only contexts that there are get attached to. -/
  known : ∀ id activity thread, session.activity? id = some activity →
    activity.role = .attaching thread → thread ∈ session.contexts.threads
  onePoller : ∀ id other activity next, session.activity? id = some activity →
    activity.role = .polling → session.activity? other = some next → next.role = .polling →
    id = other

/-- The turn reports a stop of one thread, once, and does nothing else. -/
structure Reports (thread : Int) (session : Session) (out : Session × List Effect) : Prop where
  backdrop : out.1.backdrop = session.backdrop
  syncTurns : out.1.syncTurns = session.syncTurns
  activities : out.1.activities = session.activities
  nextActivity : out.1.nextActivity = session.nextActivity
  stops : ∀ other, stopsOf other out.2 = if other = thread then 1 else 0
  calls : ∀ activity made, Effect.call activity made ∉ out.2

/-- What a session can do at an event. -/
inductive Reaction (session : Session) : SessionEvent → Session × List Effect → Prop
  | answered {request : Request} {out : Session × List Effect}
      (hplain : Plain session (.request request)) (hsilent : Silent session out) :
      Reaction session (.request request) out
  /-- Lines are counted anew. -/
  | recounted {request : Request} {linesStartAt1 : Bool} {out : Session × List Effect}
      (hcommand : request.command = "initialize")
      (hsilent : Silent { session with linesStartAt1 } out) :
      Reaction session (.request request) out
  | started {request : Request} {fresh : List Activity} {out : Session × List Effect}
      (hplain : Plain session (.request request))
      (hfresh : ∀ activity ∈ fresh, activity.role = .serving ∨
        ∃ thread ∈ session.contexts.threads, activity.role = .attaching thread)
      (hspawns : Spawns fresh session out) : Reaction session (.request request) out
  | breakpointsSet {request : Request} {path : String} {lines : List Int}
      {out : Session × List Effect}
      (hcommand : request.command = "setBreakpoints")
      (haccepted : session.setsBreakpoints (.request request) = true)
      (hspawns : Spawns (if session.paths.isSome then [.sync .starting] else [])
        { session with breakpoints := (session.breakpoints.replace path lines).2 } out) :
      Reaction session (.request request) out
  | commandStarted {request : Request} {thread : Int} {context : ExecutionContext}
      {mode : ResumeMode} {out : Session × List Effect}
      (hsets : session.setsBreakpoints (.request request) = false)
      (hbegun : session.begunCommand? (.request request) = some (session.nextActivity, thread))
      (hget : session.contexts.get? thread = some context)
      (hspawns : Spawns [.resume request thread context.suffix mode .starting]
        { session with contexts := (session.contexts.startCommand thread).2 } out) :
      Reaction session (.request request) out
  | shutDown {event : SessionEvent} {rest : Session × List Effect}
      (hevent : ∀ id, ¬ event.IsFor id) (hplain : Plain session event)
      (hsilent : Silent (shutdown session).1 rest) :
      Reaction session event (rest.1, (shutdown session).2 ++ rest.2)
  | released : Reaction session .release ({ session with held := false }, [])
  | absent {id : Nat} {event : SessionEvent} (hfor : event.IsFor id)
      (hnone : session.activity? id = none) : Reaction session event (session, [])
  | moved {id : Nat} {event : SessionEvent} {activity : Activity} {out : Session × List Effect}
      (hfor : event.IsFor id) (hactivity : session.activity? id = some activity)
      (hpolling : activity.role ≠ .polling) (hsyncing : activity.role ≠ .syncing)
      (hplain : Plain session event)
      (hlocal : Local id BackendCall.KeepsBreakpoints
        (fun next => next.role = activity.role) session out)
      (hpresent : ∀ thread, activity.role = .commanding thread →
        (out.1.activity? id).isSome) :
      Reaction session event out
  /-- A context is attached to, and the command that lets it go on is begun. -/
  | attached {id : Nat} {outcome : Outcome} {thread : Int} {context : ExecutionContext}
      {timer : Timer} {suffix : String} {mode : ResumeMode} {paths : ResourceDirectories}
      {prelude rest : Session × List Effect}
      (hactivity : session.activity? id = some (.attach thread (.asking timer suffix)))
      (hbegun : session.begunCommand? (.outcome id outcome) = some (id, thread))
      (hpaths : session.paths = none ∨ session.paths = some paths)
      (hprelude : Spawns ((if session.hasPoller then [] else [.poll .starting]) ++
          (if session.paths.isSome then [] else [.sync .starting]))
        { session with paths := some paths } prelude)
      (hget : session.contexts.get? thread = some context)
      (hlocal : Local id (fun made => made = .setResumeMode context.suffix mode)
        (fun next => next.role = .commanding thread)
        { prelude.1 with contexts := (prelude.1.contexts.startCommand thread).2 } rest)
      (hpresent : (rest.1.activity? id).isSome) :
      Reaction session (.outcome id outcome) (rest.1, prelude.2 ++ rest.2)
  | commandEnded {id : Nat} {event : SessionEvent} {thread : Int} {out : Session × List Effect}
      (hended : session.endedCommand? event = some (id, thread))
      (hlocal : Local id (fun _ => False) (fun _ => False)
        { session with contexts := session.contexts.endCommand thread } out) :
      Reaction session event out
  /-- The poller goes on, without news for the editor. -/
  | ticked {id : Nat} {event : SessionEvent} {stage : PollStage} {out : Session × List Effect}
      (hfor : event.IsFor id) (hactivity : session.activity? id = some (.poll stage))
      (hlocal : Local id BackendCall.KeepsBreakpoints
        (fun next => next.role = .polling) session out) :
      Reaction session event out
  | paused {id : Nat} {outcome : Outcome} {timer : Timer} {target : PlannedPoll}
      {others : List PlannedPoll} {state : RunState} {report rest : Session × List Effect}
      (hactivity : session.activity? id = some (.poll (.asking timer target others)))
      (hreply : BackendClient.runState target.suffix outcome = .ok state)
      (haccepted : (session.contexts.applyPoll target state).1 = true)
      (hreport : Reports target.thread
        { session with contexts := (session.contexts.applyPoll target state).2 } report)
      (hlocal : Local id BackendCall.KeepsBreakpoints
        (fun next => next.role = .polling) report.1 rest) :
      Reaction session (.outcome id outcome) (rest.1, report.2 ++ rest.2)
  | synced {id : Nat} {event : SessionEvent} {stage : SyncStage} {out : Session × List Effect}
      (hfor : event.IsFor id) (hstage : session.syncStage? id = some stage)
      (hmove : SyncMove id session stage event out) : Reaction session event out

end Session

end DebugBridge
