import DebugBridge.Proofs.Session.SyncCalls
import Mathlib.Logic.Function.Basic

/-!
# A session and its backend

A session against the simulated backend, with everything in any order: the backend processes calls
when it likes, replies get lost, and others use the backend too.  Only a success is never made up.
-/

namespace DebugBridge

/-- A call that has no outcome yet. -/
structure CallUnderWay where
  made : BackendCall
  /-- The status of the reply, once the backend has processed the call. -/
  status : Option Nat := none

/-- The backend has done what the call asks for. -/
def CallUnderWay.isGranted (call : CallUnderWay) : Bool := call.status.any BackendClient.isSuccess

inductive WorldEvent
  | session (now : Nat) (event : SessionEvent)
  /-- The backend processes the call of an activity. -/
  | process (activity : Nat)
  /-- Whatever else happens to the backend.  Even a call that was given up may still reach it. -/
  | touch (change : SimulatedBackend → SimulatedBackend)

structure World where
  session : Session
  backend : SimulatedBackend
  /-- By activity; each waits for one call at most. -/
  calls : Nat → Option CallUnderWay := fun _ => none

namespace World

def ofConfig (config : BackendConfig) (backend : SimulatedBackend) : World :=
  { session := .ofConfig config, backend }

def isGranted (world : World) (id : Nat) : Bool := (world.calls id).any CallUnderWay.isGranted

/-- An outcome is one of a call under way, and tells of no success that there was not. -/
def permits (world : World) : SessionEvent → Bool
  | .outcome id (.ok reply) =>
    (world.calls id).isSome && (!BackendClient.isSuccess reply.status || world.isGranted id)
  | .outcome id (.error _) => (world.calls id).isSome
  | _ => true

/-- The calls under way once the session has taken an event. -/
def callsAfter (world : World) (event : SessionEvent) (effects : List Effect) (id : Nat) :
    Option CallUnderWay :=
  match (callsOf id effects).getLast? with
  | some made => some { made }
  | none => if event.isOutcomeOf id then none else world.calls id

/-- The session takes an event. -/
def take (world : World) (now : Nat) (event : SessionEvent) : World :=
  { world with
    session := (Session.step now event world.session).1
    calls := world.callsAfter event (Session.step now event world.session).2 }

/-- The backend processes a call, once. -/
def process (world : World) (id : Nat) : World :=
  match world.calls id with
  | some { made, status := none } =>
    { world with
      backend := (world.backend.serve made).2
      calls := Function.update world.calls id
        (some { made, status := some (world.backend.serve made).1.status }) }
  | _ => world

/-- What cannot happen changes nothing. -/
def step (world : World) : WorldEvent → World
  | .session now event => if world.permits event then world.take now event else world
  | .process id => world.process id
  | .touch change => { world with backend := change world.backend }

def run (events : List WorldEvent) (world : World) : World := events.foldl step world

/-! ## What the session goes through -/

def taken (world : World) : WorldEvent → List (Nat × SessionEvent)
  | .session now event => if world.permits event then [(now, event)] else []
  | _ => []

/-- The run of the session within a run of the world. -/
def history : List WorldEvent → World → List (Nat × SessionEvent)
  | [], _ => []
  | event :: events, world => world.taken event ++ history events (world.step event)

theorem session_process (world : World) (id : Nat) :
    (world.process id).session = world.session := by
  unfold process
  split
  · rfl
  · rfl

theorem session_step (world : World) (event : WorldEvent) :
    (world.step event).session = (Session.run (world.taken event) world.session).1 := by
  cases event with
  | session now event =>
      rw [step, taken]
      split
      · rw [Session.run, Session.run, Session.Turn.andThen_idle]
        rfl
      · rfl
  | process id => exact session_process world id
  | touch change => rfl

/-- The session of a world runs as any session does. -/
theorem session_run (events : List WorldEvent) (world : World) :
    (run events world).session = (Session.run (history events world) world.session).1 := by
  induction events generalizing world with
  | nil => rfl
  | cons event events ih =>
      have hrest := ih (world.step event)
      rw [session_step] at hrest
      rw [history, Session.run_append]
      exact hrest

theorem history_append (first second : List WorldEvent) (world : World) :
    history (first ++ second) world = history first world ++ history second (run first world) := by
  induction first generalizing world with
  | nil => rfl
  | cons event first ih =>
      rw [List.cons_append, history, history, ih, List.append_assoc]
      rfl

theorem run_append (first second : List WorldEvent) (world : World) :
    run (first ++ second) world = run second (run first world) := List.foldl_append

/-- What can be seen of the syncs at one event. -/
def marks (world : World) (event : WorldEvent) : List SyncMark :=
  Session.syncTrace (world.taken event) world.session

/-- What can be seen of the syncs over a run. -/
def trace (events : List WorldEvent) (world : World) : List SyncMark :=
  Session.syncTrace (history events world) world.session

/-- How often a sync was due over a run. -/
def starts (events : List WorldEvent) (world : World) : Nat :=
  Session.syncStarts (history events world) world.session

theorem trace_append (first second : List WorldEvent) (world : World) :
    trace (first ++ second) world = trace first world ++ trace second (run first world) := by
  rw [trace, history_append, Session.syncTrace_append, ← session_run]
  rfl

theorem starts_append (first second : List WorldEvent) (world : World) :
    starts (first ++ second) world = starts first world + starts second (run first world) := by
  rw [starts, history_append, Session.syncStarts_append, ← session_run]
  rfl

theorem trace_singleton (event : WorldEvent) (world : World) :
    trace [event] world = world.marks event := by
  rw [trace, history, history, List.append_nil]
  rfl

theorem marks_of_untaken {world : World} {event : WorldEvent} (htaken : world.taken event = []) :
    world.marks event = [] := by
  rw [marks, htaken]
  rfl

theorem starts_of_untaken {world : World} {event : WorldEvent} (htaken : world.taken event = []) :
    starts [event] world = 0 := by
  rw [starts, history, history, htaken]
  rfl

theorem marks_session {world : World} {event : SessionEvent}
    (hpermits : world.permits event = true) (now : Nat) :
    world.marks (.session now event) =
      world.session.stepMarks now event := by
  rw [marks, taken, if_pos hpermits]
  exact List.append_nil _

theorem starts_session {world : World} {event : SessionEvent}
    (hpermits : world.permits event = true) (now : Nat) :
    starts [.session now event] world =
      if world.session.startsSync event (Session.step now event world.session).1 then 1 else 0 := by
  rw [starts, history, history, taken, if_pos hpermits]
  exact Nat.add_zero _

/-! ## Calls that write breakpoints -/

/-- Breakpoints are written by the sync at work alone, through the call that it waits for. -/
structure CallsOk (world : World) : Prop where
  waiting : ∀ id stage, world.session.callingStage? id = some stage →
    ∃ made status, world.calls id = some { made, status } ∧ stage.call? = some made
  writing : ∀ id call, world.calls id = some call → call.made.WritesBreakpoints →
    (world.session.callingStage? id).isSome = true

theorem CallsOk.ofConfig (config : BackendConfig) (backend : SimulatedBackend) :
    CallsOk (.ofConfig config backend) := by
  constructor
  · intro id stage hstage
    cases hstage
  · intro id call hcall
    cases hcall

section Take

variable {world : World} {now : Nat} {event : SessionEvent} {id : Nat}

theorem calls_take_of_call {made : BackendCall}
    (hmade : callsOf id (Session.step now event world.session).2 = [made]) :
    (world.take now event).calls id = some { made } := by
  have hlast : (callsOf id (Session.step now event world.session).2).getLast? = some made := by
    rw [hmade]
    rfl
  simp only [take, callsAfter, hlast]

/-- A sync that can be seen to clear has nothing else under way. -/
theorem calls_take_of_clear {known : Option (List (String × Int))}
    (hwf : Session.WellFormed world.session)
    (hsync : (world.session.syncStage? id).isSome = true)
    (hmarks : world.session.stepMarks now event = [.clear id known]) :
    (world.take now event).calls id = some { made := .clearBreakpoints } := by
  apply calls_take_of_call
  rw [Session.callsOf_step_of_sync hwf hsync, hmarks]
  simp [SyncMark.callOf?]

theorem calls_take_of_set {accepted : Bool} {file : String} {line : Int}
    (hwf : Session.WellFormed world.session)
    (hsync : (world.session.syncStage? id).isSome = true)
    (hmarks : world.session.stepMarks now event = [.answered id accepted, .set id file line]) :
    (world.take now event).calls id = some { made := .setBreakpoint file line } := by
  apply calls_take_of_call
  rw [Session.callsOf_step_of_sync hwf hsync, hmarks]
  simp [List.filterMap_cons, SyncMark.callOf?]

/-- An event that is not about the syncs leaves their calls under way. -/
theorem calls_take_of_quiet (hwf : Session.WellFormed world.session)
    (hsync : (world.session.syncStage? id).isSome = true)
    (hmarks : world.session.stepMarks now event = [])
    (hother : event.isOutcomeOf id = false) :
    (world.take now event).calls id = world.calls id := by
  have hnone := Session.callsOf_step_of_sync hwf hsync now event
  rw [hmarks, List.filterMap_nil] at hnone
  have hlast : (callsOf id (Session.step now event world.session).2).getLast? = none := by
    rw [hnone]
    rfl
  simp [take, callsAfter, hlast, hother]

/-- A call that writes breakpoints and leaves no mark was under way before. -/
theorem calls_of_take {call : CallUnderWay} (hcall : (world.take now event).calls id = some call)
    (hwrites : call.made.WritesBreakpoints)
    (hunmarked : ∀ mark ∈ world.session.stepMarks now event, mark.callOf? id = none) :
    world.calls id = some call ∧ event.isOutcomeOf id = false := by
  simp only [take, callsAfter] at hcall
  split at hcall
  · next made hlast =>
      cases hcall
      exact absurd hwrites (Session.call_step_of_keeps (List.mem_of_getLast? hlast) hunmarked)
  · split at hcall
    · cases hcall
    · next hother => exact ⟨hcall, Bool.eq_false_iff.mpr hother⟩

/-- An outcome that no waiting sync takes is not for one. -/
theorem isOutcomeOf_eq_false {session : Session} {stage : SyncStage}
    (hevent : ∀ id outcome, event = .outcome id outcome → session.callingStage? id = none)
    (hstage : session.callingStage? id = some stage) : event.isOutcomeOf id = false := by
  cases event with
  | outcome other outcome =>
      rw [SessionEvent.isOutcomeOf, beq_eq_false_iff_ne]
      rintro rfl
      rw [hevent other outcome rfl] at hstage
      cases hstage
  | request request => rfl
  | shutdown => rfl
  | release => rfl
  | wake other => rfl

theorem isSome_syncStage?_of_calling {session : Session} {stage : SyncStage}
    (hstage : session.callingStage? id = some stage) : (session.syncStage? id).isSome = true :=
  Session.isSome_syncStage?_iff.mpr (.inr ⟨stage, hstage⟩)

/-! ### Steps of the syncs -/

section Steps

variable {owner : Nat} {stage : SyncStage} {accepted : Bool}

theorem CallsOk.take_quiet (hcalls : CallsOk world) (hwf : Session.WellFormed world.session)
    (hmarks : world.session.stepMarks now event = [])
    (hevent : ∀ id outcome, event = .outcome id outcome → world.session.callingStage? id = none)
    (hcalling : ∀ id, (Session.step now event world.session).1.callingStage? id =
      world.session.callingStage? id) : CallsOk (world.take now event) := by
  constructor
  · intro id stage hstage
    have hbefore := (hcalling id).symm.trans hstage
    rw [calls_take_of_quiet hwf (isSome_syncStage?_of_calling hbefore) hmarks
      (isOutcomeOf_eq_false hevent hbefore)]
    exact hcalls.waiting id stage hbefore
  · intro id call hcall hwrites
    have hold := calls_of_take hcall hwrites (by simp [hmarks])
    have hbefore := hcalls.writing id call hold.1 hwrites
    rw [← hcalling id] at hbefore
    exact hbefore

theorem CallsOk.take_began {plan : List (String × Int)} (hcalls : CallsOk world)
    (hwf : Session.WellFormed world.session)
    (hmarks : world.session.stepMarks now event = [.clear owner (some plan)])
    (hwaiting : world.session.isPendingSync owner = true)
    (hidle : ∀ other, world.session.callingStage? other = none)
    (hcalling : ∀ other, (Session.step now event world.session).1.callingStage? other =
      if other = owner then some (.clearing { rest := plan, total := plan.length }) else none) :
    CallsOk (world.take now event) := by
  have hsync := Session.isSome_syncStage?_iff.mpr (.inl hwaiting)
  constructor
  · intro id stage hstage
    have hafter := (hcalling id).symm.trans hstage
    split at hafter
    · next hid =>
        cases hafter
        rw [hid, calls_take_of_clear hwf hsync hmarks]
        exact ⟨_, _, rfl, rfl⟩
    · cases hafter
  · intro id call hcall hwrites
    by_cases hid : id = owner
    · have hafter := hcalling id
      rw [if_pos hid] at hafter
      exact Option.isSome_of_eq_some hafter
    · have hold := calls_of_take hcall hwrites (by
        simp [hmarks, SyncMark.callOf?, Ne.symm hid])
      have hbefore := hcalls.writing id call hold.1 hwrites
      rw [hidle id] at hbefore
      cases hbefore

/-- Whatever else writes breakpoints would be a second sync that waits for a call. -/
theorem CallsOk.take_called {file : String} {line : Int} {left : SyncPlan}
    (hcalls : CallsOk world) (hwf : Session.WellFormed world.session)
    (hmarks : world.session.stepMarks now event =
      [.answered owner accepted, .set owner file line])
    (hstage : world.session.callingStage? owner = some stage)
    (hcalling : ∀ other, (Session.step now event world.session).1.callingStage? other =
      if other = owner then some (.setting file line left) else none) :
    CallsOk (world.take now event) := by
  have hsync := isSome_syncStage?_of_calling hstage
  constructor
  · intro id next hnext
    have hafter := (hcalling id).symm.trans hnext
    split at hafter
    · next hid =>
        cases hafter
        rw [hid, calls_take_of_set hwf hsync hmarks]
        exact ⟨_, _, rfl, rfl⟩
    · cases hafter
  · intro id call hcall hwrites
    have hafter := hcalling id
    by_cases hid : id = owner
    · rw [if_pos hid] at hafter
      exact Option.isSome_of_eq_some hafter
    · have hold := calls_of_take hcall hwrites (by
        simp [hmarks, SyncMark.callOf?, Ne.symm hid])
      have hbefore := hcalls.writing id call hold.1 hwrites
      obtain ⟨other, hother⟩ := Option.isSome_iff_exists.mp hbefore
      exact absurd (Session.callingStage?_unique hwf.syncs hother hstage) hid

theorem CallsOk.take_ended {outcome : Outcome} (hcalls : CallsOk world)
    (hwf : Session.WellFormed world.session)
    (hmarks : world.session.stepMarks now event = [.answered owner accepted])
    (hevent : event = .outcome owner outcome)
    (hstage : world.session.callingStage? owner = some stage)
    (hcalling : ∀ other, (Session.step now event world.session).1.callingStage? other = none) :
    CallsOk (world.take now event) := by
  constructor
  · intro id next hnext
    have hafter := (hcalling id).symm.trans hnext
    cases hafter
  · intro id call hcall hwrites
    have hold := calls_of_take hcall hwrites (by simp [hmarks, SyncMark.callOf?])
    have hbefore := hcalls.writing id call hold.1 hwrites
    obtain ⟨other, hother⟩ := Option.isSome_iff_exists.mp hbefore
    have hid := Session.callingStage?_unique hwf.syncs hother hstage
    rw [hevent, hid, SessionEvent.isOutcomeOf, beq_self_eq_true] at hold
    cases hold.2

end Steps

theorem CallsOk.take (hcalls : CallsOk world) (hwf : Session.WellFormed world.session)
    (hinstalled : world.session.SyncsInstalled) (now : Nat) (event : SessionEvent) :
    CallsOk (world.take now event) := by
  have hstep := Session.syncStep_step hwf hinstalled now event
  generalize hmarks : world.session.stepMarks now event = marks at hstep
  cases hstep with
  | quiet hcount hnew hevent hcalling hpending =>
      exact hcalls.take_quiet hwf hmarks hevent hcalling
  | began hstarts hevent hknown hwaiting hidle hcalling hpending =>
      exact hcalls.take_began hwf hmarks hwaiting hidle hcalling
  | called hstarts hevent hstage hleft hcalling hpending =>
      exact hcalls.take_called hwf hmarks hstage hcalling
  | ended hstarts hevent hstage hleft hcalling hpending =>
      exact hcalls.take_ended hwf hmarks hevent hstage hcalling

end Take

end World

end DebugBridge
