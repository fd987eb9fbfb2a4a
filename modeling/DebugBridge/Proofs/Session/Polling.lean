import DebugBridge.Proofs.Session.Commands
import DebugBridge.Proofs.Session.Others

/-!
# Ticks of the poller

A tick asks for the state of every context that runs at its start, one after the other.  Whatever
happens meanwhile and whatever came of the other contexts, a reply that tells of a pause is
reported, unless a command of its context began or ended since.
-/

namespace DebugBridge

/-- The context shows what this state of it reported. -/
structure ExecutionContext.Shows (context : ExecutionContext) (state : RunState) : Prop where
  currentFile : context.currentFile = state.currentFile
  currentLine : context.currentLine = state.currentLine
  localVariables : context.localVariables = state.localVariables
  upvalueVariables : context.upvalueVariables = state.upvalueVariables
  globalVariables : context.globalVariables = state.globalVariables

namespace Session

open Milestone

/-! ## Contexts between ticks -/

section Contexts

variable {thread : Int} {session : Session} {context : ExecutionContext} {state : RunState}

/-- As long as nothing happens to a thread its context stays as it is. -/
theorem get?_run_of_quiet (hwf : WellFormed session) {events : List (Nat × SessionEvent)}
    (hquiet : chronicle thread events session = []) :
    (run events session).1.contexts.get? thread = session.contexts.get? thread := by
  induction events generalizing session with
  | nil => rfl
  | cons event events ih =>
      obtain ⟨hnew, hrest⟩ := List.append_eq_nil_iff.mp hquiet
      have hmove := @commandMove_step thread session hwf event.1 event.2
      have hget : (step event.1 event.2 session).1.contexts.get? thread =
          session.contexts.get? thread := by
        rw [hnew] at hmove
        cases hmove with
        | quiet hget hcommands => exact hget
      exact (ih (wellFormed_step hwf event.1 event.2) hrest).trans hget

/-- Without a stop only the commands of a context are counted, and what it shows stays. -/
theorem CommandMove.shows {after : Session} {new : List Milestone}
    (hmove : CommandMove thread session after new) (hstopped : .stopped ∉ new)
    (hget : session.contexts.get? thread = some context) (hshows : context.Shows state) :
    ∃ last, after.contexts.get? thread = some last ∧ last.Shows state := by
  cases hmove with
  | quiet hafter hcommands => exact ⟨context, hafter.trans hget, hshows⟩
  | began hbefore hafter hcommands hnew hlive =>
      rw [hget, Option.some.injEq] at hbefore
      subst hbefore
      exact ⟨context.startCommand, hafter, ⟨hshows.currentFile, hshows.currentLine,
        hshows.localVariables, hshows.upvalueVariables, hshows.globalVariables⟩⟩
  | completed hlive hafter hcommands hgone =>
      rw [hget, Option.map_some] at hafter
      exact ⟨context.endCommand, hafter, ⟨hshows.currentFile, hshows.currentLine,
        hshows.localVariables, hshows.upvalueVariables, hshows.globalVariables⟩⟩
  | stopped hbefore hrunning hidle hafter hcommands => simp at hstopped

theorem shows_run (hwf : WellFormed session) {events : List (Nat × SessionEvent)}
    (hstops : stopsOf thread (run events session).2 = 0)
    (hget : session.contexts.get? thread = some context) (hshows : context.Shows state) :
    ∃ last, (run events session).1.contexts.get? thread = some last ∧ last.Shows state := by
  induction events generalizing session context with
  | nil => exact ⟨context, hget, hshows⟩
  | cons event events ih =>
      have hparts : stopsOf thread (step event.1 event.2 session).2 +
          stopsOf thread (run events (step event.1 event.2 session).1).2 = 0 := by
        rw [← stopsOf_append]
        exact hstops
      obtain ⟨hnew, hrest⟩ := Nat.add_eq_zero_iff.mp hparts
      have hstopped : .stopped ∉ milestones thread session event.2
          (step event.1 event.2 session) := by
        rw [← List.count_eq_zero, count_stopped_milestones, hnew]
      obtain ⟨next, hnext, hnextShows⟩ :=
        (commandMove_step hwf event.1 event.2).shows hstopped hget hshows
      exact ih (wellFormed_step hwf event.1 event.2) hrest hnext hnextShows

end Contexts

/-! ## What the poller still asks -/

/-- The calls that ask for the states of some contexts. -/
def stateCalls (targets : List PlannedPoll) : List BackendCall :=
  targets.map fun target => .runState target.suffix

/-- The poller waits for the first of these answers and asks for the others afterwards. -/
def Asks (session : Session) (id : Nat) : List PlannedPoll → Prop
  | [] => ∃ stage, session.activity? id = some (.poll stage)
  | target :: others => ∃ timer, session.activity? id = some (.poll (.asking timer target others))

section Asks

variable {id : Nat} {session : Session} {remaining : List PlannedPoll}

theorem Asks.polls (hasks : session.Asks id remaining) :
    ∃ stage, session.activity? id = some (.poll stage) := by
  cases remaining with
  | nil => exact hasks
  | cons target others =>
      obtain ⟨timer, hactivity⟩ := hasks
      exact ⟨_, hactivity⟩

theorem Asks.congr {other : Session} (hasks : session.Asks id remaining)
    (hactivity : other.activity? id = session.activity? id) : other.Asks id remaining := by
  cases remaining with
  | nil =>
      obtain ⟨stage, hstage⟩ := hasks
      exact ⟨stage, hactivity.trans hstage⟩
  | cons target others =>
      obtain ⟨timer, hasking⟩ := hasks
      exact ⟨timer, hactivity.trans hasking⟩

/-- The poller goes on asking until it is ended. -/
theorem Asks.of_undisturbed {out : Session × List Effect} (hasks : session.Asks id remaining)
    (hundisturbed : Undisturbed id session out) (hpresent : (out.1.activity? id).isSome) :
    out.1.Asks id remaining := by
  rcases hundisturbed.activity? with hsame | hgone
  · exact hasks.congr hsame
  · rw [hgone] at hpresent
    cases hpresent

/-- What the poller asks after a reaction it still asks after the step. -/
theorem Asks.reaped {now : Nat} {event : SessionEvent}
    (hasks : (react now event session).1.Asks id remaining) (hwf : WellFormed session)
    (hpresent : ((step now event session).1.activity? id).isSome) :
    (step now event session).1.Asks id remaining := by
  have hreaped := undisturbed_reap ((reaction_react hwf now event).wellFormed hwf).table id
  have hafter : (step now event session).1 = (reap (react now event session).1).1 := rfl
  rw [hafter] at hpresent ⊢
  exact hasks.of_undisturbed hreaped hpresent

theorem asks_askTarget {stage : PollStage} (hactivity : session.activity? id = some (.poll stage))
    (timer : Timer) (target : PlannedPoll) (others : List PlannedPoll) :
    (askTarget id timer target others session).1.Asks id (target :: others) ∧
      callsOf id (askTarget id timer target others session).2 =
        stateCalls ((target :: others).take 1) := by
  constructor
  · refine ⟨timer, ?_⟩
    exact (activity?_put_of_some hactivity _ id).trans (if_pos rfl)
  · simp [askTarget, await, put, callsOf, stateCalls]

/-- A tick that is due asks about the contexts that run, the first one at once. -/
theorem asks_pollTick {stage : PollStage} (hactivity : session.activity? id = some (.poll stage))
    {timer : Timer} {now : Nat} (hdue : timer.isDue now = true) :
    (pollTick id timer now session).1.Asks id session.contexts.plannedPolls ∧
      callsOf id (pollTick id timer now session).2 =
        stateCalls (session.contexts.plannedPolls.take 1) := by
  simp only [pollTick, hdue, if_true]
  cases session.contexts.plannedPolls with
  | nil =>
      constructor
      · exact ⟨_, (activity?_put_of_some hactivity _ id).trans (if_pos rfl)⟩
      · simp [sleep, put, callsOf, stateCalls]
  | cons target others => exact asks_askTarget hactivity _ target others

theorem polls_pollTick {stage : PollStage} (hactivity : session.activity? id = some (.poll stage))
    (timer : Timer) (now : Nat) : (pollTick id timer now session).1.Asks id [] := by
  by_cases hdue : timer.isDue now = true
  · exact (asks_pollTick hactivity hdue).1.polls
  · simp only [pollTick, hdue]
    exact ⟨_, (activity?_put_of_some hactivity _ id).trans (if_pos rfl)⟩

theorem asks_pollNext {stage : PollStage} (hactivity : session.activity? id = some (.poll stage))
    (timer : Timer) (now : Nat) (others : List PlannedPoll) :
    (pollNext id timer now others session).1.Asks id others ∧
      (others ≠ [] → callsOf id (pollNext id timer now others session).2 =
        stateCalls (others.take 1)) := by
  cases others with
  | nil => exact ⟨polls_pollTick hactivity timer now, fun hne => absurd rfl hne⟩
  | cons target others =>
      obtain ⟨hasks, hcalls⟩ := asks_askTarget hactivity timer target others
      exact ⟨hasks, fun _ => hcalls⟩

theorem activities_pollState (target : PlannedPoll) (reply : Except BackendFault RunState)
    (session : Session) :
    (pollState target reply session).1.activities = session.activities ∧
      callsOf id (pollState target reply session).2 = [] := by
  rcases pollState_cases target reply session with hsilent | ⟨state, -, -, hreport⟩
  · exact ⟨hsilent.activities, callsOf_eq_nil_of_within hsilent.effects fun _ hcall => hcall⟩
  · exact ⟨hreport.activities, callsOf_eq_nil (hreport.calls id)⟩

end Asks

/-! ## A tick step by step -/

/-- The event lets the poller with this number begin a tick. -/
def beginsTick (session : Session) (now id : Nat) : SessionEvent → Bool
  | .wake other => other == id &&
    match session.activity? id with
    | some (.poll .starting) => true
    | some (.poll (.waiting timer)) => timer.isDue now
    | _ => false
  | .outcome other _ => other == id &&
    match session.activity? id with
    | some (.poll (.asking timer _ [])) => timer.isDue now
    | _ => false
  | _ => false

section Steps

variable {id now : Nat} {session : Session} {event : SessionEvent}
variable {remaining : List PlannedPoll}

/-- At the beginning of a tick, at most the last answer of the one before is taken up first. -/
theorem react_of_beginsTick (hbegins : session.beginsTick now id event = true) :
    ∃ answer timer stage, timer.isDue now = true ∧
      session.activity? id = some (.poll stage) ∧
      react now event session = Turn.andThen answer (pollTick id timer now) session ∧
      (answer session).1.activities = session.activities ∧
      callsOf id (answer session).2 = [] := by
  cases event with
  | wake other =>
      simp only [beginsTick, Bool.and_eq_true, beq_iff_eq] at hbegins
      obtain ⟨rfl, hdue⟩ := hbegins
      split at hdue
      · next hactivity =>
          refine ⟨Turn.idle,
            .start session.config.pollInterval session.config.pollInterval_pos now, _, ?_,
            hactivity, ?_, rfl, rfl⟩
          · simp [Timer.start, Timer.isDue]
          · simp only [react, withActivity, hactivity]
            rfl
      · next timer hactivity =>
          refine ⟨Turn.idle, timer, _, hdue, hactivity, ?_, rfl, rfl⟩
          simp only [react, withActivity, hactivity]
          rfl
      · cases hdue
  | outcome other outcome =>
      simp only [beginsTick, Bool.and_eq_true, beq_iff_eq] at hbegins
      obtain ⟨rfl, hdue⟩ := hbegins
      split at hdue
      · next timer target hactivity =>
          have hkept := @activities_pollState other target
            (BackendClient.runState target.suffix outcome) session
          refine ⟨_, timer, _, hdue, hactivity, ?_, hkept.1, hkept.2⟩
          simp only [react, withActivity, hactivity]
          rfl
      · cases hdue
  | request request => cases hbegins
  | shutdown => cases hbegins
  | release => cases hbegins

/-- The first question of a tick is about the first context that runs. -/
theorem asks_of_beginsTick (hwf : WellFormed session)
    (hbegins : session.beginsTick now id event = true) :
    callsOf id (step now event session).2 =
        stateCalls ((step now event session).1.contexts.plannedPolls.take 1) ∧
      (((step now event session).1.activity? id).isSome →
        (step now event session).1.Asks id (step now event session).1.contexts.plannedPolls) := by
  obtain ⟨answer, timer, stage, hdue, hactivity, hturn, hactivities, hnone⟩ :=
    react_of_beginsTick hbegins
  have htable := ((reaction_react hwf now event).wellFormed hwf).table
  have hpolls : (answer session).1.activity? id = some (.poll stage) :=
    (activity?_congr hactivities id).trans hactivity
  obtain ⟨hasks, hcalls⟩ := asks_pollTick hpolls hdue
  have hplanned : (step now event session).1.contexts.plannedPolls =
      (answer session).1.contexts.plannedPolls := by
    have hcontexts : (step now event session).1.contexts.contexts =
        (react now event session).1.contexts.contexts :=
      congrArg Backdrop.contexts (reaped_reap htable).backdrop
    have htick : (pollTick id timer now (answer session).1).1.contexts =
        (answer session).1.contexts := by
      simp only [pollTick, hdue, if_true]
      split
      · rfl
      · rfl
    rw [Contexts.plannedPolls, hcontexts, hturn, Turn.andThen_fst, htick]
    rfl
  rw [hplanned]
  constructor
  · rw [callsOf_step hwf, hturn, Turn.andThen_snd, callsOf_append, hnone, List.nil_append, hcalls]
  · refine Asks.reaped ?_ hwf
    rw [hturn]
    exact hasks

/-- An answer moves the poller on to the next question. -/
theorem Asks.step_outcome {target : PlannedPoll} {others : List PlannedPoll}
    (hasks : session.Asks id (target :: others)) (hwf : WellFormed session) (now : Nat)
    (outcome : Outcome)
    (hpresent : ((step now (.outcome id outcome) session).1.activity? id).isSome) :
    (step now (.outcome id outcome) session).1.Asks id others ∧
      (others ≠ [] → callsOf id (step now (.outcome id outcome) session).2 =
        stateCalls (others.take 1)) := by
  obtain ⟨timer, hactivity⟩ := hasks
  have hturn : react now (.outcome id outcome) session =
      (pollState target (BackendClient.runState target.suffix outcome)).andThen
        (pollNext id timer now others) session := by
    simp only [react, withActivity, hactivity]
    rfl
  obtain ⟨hactivities, hnone⟩ := @activities_pollState id target
    (BackendClient.runState target.suffix outcome) session
  obtain ⟨hnext, hcalls⟩ :=
    asks_pollNext ((activity?_congr hactivities id).trans hactivity) timer now others
  constructor
  · refine Asks.reaped ?_ hwf hpresent
    rw [hturn]
    exact hnext
  · intro hothers
    rw [callsOf_step hwf, hturn, Turn.andThen_snd, callsOf_append, hnone, List.nil_append,
      hcalls hothers]

/-- Nothing but an answer changes what the poller still asks. -/
theorem Asks.step_other (hasks : session.Asks id remaining) (hwf : WellFormed session) (now : Nat)
    (hevent : event.isOutcomeOf id = false)
    (hpresent : ((step now event session).1.activity? id).isSome) :
    (step now event session).1.Asks id remaining ∧
      (remaining ≠ [] → callsOf id (step now event session).2 = []) := by
  obtain ⟨stage, hactivity⟩ := hasks.polls
  by_cases hwake : event = .wake id
  · subst hwake
    cases remaining with
    | nil =>
        refine ⟨Asks.reaped ?_ hwf hpresent, fun hne => absurd rfl hne⟩
        have hturn : react now (.wake id) session =
            wakeActivity now id session (.poll stage) session := by
          simp only [react, withActivity, hactivity]
        rw [hturn]
        cases stage with
        | starting => exact polls_pollTick hactivity _ now
        | waiting timer => exact polls_pollTick hactivity timer now
        | asking timer target others => exact ⟨_, hactivity⟩
    | cons target others =>
        obtain ⟨timer, hasking⟩ := hasks
        have hturn : react now (.wake id) session = (session, []) := by
          simp only [react, withActivity, hasking]
          rfl
        refine ⟨Asks.reaped ?_ hwf hpresent, fun _ => ?_⟩
        · rw [hturn]
          exact ⟨timer, hasking⟩
        · rw [callsOf_step hwf, hturn]
          rfl
  · have hother : event.IsFor id → session.activity? id = none := by
      rintro (hfor | ⟨outcome, rfl⟩)
      · exact absurd hfor hwake
      · simp [SessionEvent.isOutcomeOf] at hevent
    have hundisturbed := undisturbed_step hwf (hwf.table.lt_of_activity? hactivity)
      (syncStage?_eq_none_of_role hactivity (by simp [Activity.role])) hother now
    exact ⟨hasks.of_undisturbed hundisturbed hpresent, fun _ => hundisturbed.calls⟩

/-- A stop comes with an answer to the poller, and of the thread asked about. -/
theorem Asks.of_stop (hasks : session.Asks id remaining) (hwf : WellFormed session) {thread : Int}
    (hstop : stopsOf thread (step now event session).2 ≠ 0) :
    event.isOutcomeOf id = true ∧
      ∀ target others, remaining = target :: others → target.thread = thread := by
  obtain ⟨stage, hactivity⟩ := hasks.polls
  obtain ⟨target, state, hpauses, hthread⟩ := pauses_of_stop_step hwf hstop
  obtain ⟨poller, outcome, timer, others, rfl, hpoller, -⟩ := polledState?_eq_some hpauses.polled
  have hsame : poller = id := hwf.onePoller poller id _ _ hpoller rfl hactivity rfl
  subst hsame
  refine ⟨by simp [SessionEvent.isOutcomeOf], ?_⟩
  rintro asked rest rfl
  obtain ⟨other, hasking⟩ := hasks
  rw [hpoller, Option.some.injEq, Activity.poll.injEq, PollStage.asking.injEq] at hasking
  rw [← hasking.2.1, hthread]

end Steps

/-! ## A whole tick -/

/-- How far a tick has come after some events. -/
structure Progress (id : Nat) (remaining : List PlannedPoll) (events : List (Nat × SessionEvent))
    (out : Session × List Effect) : Prop where
  asks : out.1.Asks id (remaining.drop (outcomesFor id events))
  calls : outcomesFor id events < remaining.length →
    callsOf id out.2 = stateCalls ((remaining.drop 1).take (outcomesFor id events))
  stops : ∀ thread, (∀ target ∈ remaining.take (outcomesFor id events), target.thread ≠ thread) →
    stopsOf thread out.2 = 0

section Tick

variable {id : Nat} {session : Session} {remaining : List PlannedPoll}

theorem outcomesFor_cons_of_false {id now : Nat} {event : SessionEvent}
    (hevent : event.isOutcomeOf id = false) (events : List (Nat × SessionEvent)) :
    outcomesFor id ((now, event) :: events) = outcomesFor id events := by
  rw [outcomesFor, List.countP_cons_of_neg (by simp [hevent])]
  rfl

theorem outcomesFor_cons_of_true {id now : Nat} {event : SessionEvent}
    (hevent : event.isOutcomeOf id = true) (events : List (Nat × SessionEvent)) :
    outcomesFor id ((now, event) :: events) = outcomesFor id events + 1 := by
  rw [outcomesFor, List.countP_cons_of_pos (by simp [hevent])]
  rfl

theorem outcomesFor_append (id : Nat) (first second : List (Nat × SessionEvent)) :
    outcomesFor id (first ++ second) = outcomesFor id first + outcomesFor id second :=
  List.countP_append

/-- A poller that is there at the end of a run was there all along. -/
theorem Asks.present_step (hasks : session.Asks id remaining) (hwf : WellFormed session)
    {now : Nat} {event : SessionEvent} {events : List (Nat × SessionEvent)}
    (hpresent : ((run events (step now event session).1).1.activity? id).isSome) :
    ((step now event session).1.activity? id).isSome := by
  obtain ⟨stage, hactivity⟩ := hasks.polls
  have hbelow := Nat.lt_of_lt_of_le (hwf.table.lt_of_activity? hactivity)
    (nextActivity_le_step hwf now event)
  exact present_of_run (wellFormed_step hwf now event) hbelow hpresent

/-- An event that is not the answer awaited brings the tick no further. -/
theorem Progress.other {now : Nat} {event : SessionEvent} {events : List (Nat × SessionEvent)}
    (hasks : session.Asks id remaining) (hwf : WellFormed session)
    (hevent : event.isOutcomeOf id = false)
    (hcalls : remaining ≠ [] → callsOf id (step now event session).2 = [])
    (hrest : Progress id remaining events (Session.run events (step now event session).1)) :
    Progress id remaining ((now, event) :: events)
      (Session.run ((now, event) :: events) session) := by
  constructor
  · rw [outcomesFor_cons_of_false hevent]
    exact hrest.asks
  · rw [outcomesFor_cons_of_false hevent]
    intro hmore
    have hne : remaining ≠ [] := List.ne_nil_of_length_pos (Nat.zero_lt_of_lt hmore)
    rw [Session.run, Turn.andThen_snd, callsOf_append, hcalls hne, hrest.calls hmore]
    rfl
  · rw [outcomesFor_cons_of_false hevent]
    intro thread hother
    have hfirst : stopsOf thread (step now event session).2 = 0 := by
      by_contra hstop
      rw [(hasks.of_stop hwf hstop).1] at hevent
      cases hevent
    rw [Session.run, Turn.andThen_snd, stopsOf_append, hfirst, hrest.stops thread hother]

/-- At the answer awaited, the tick goes on with the next context. -/
theorem Progress.answered {now : Nat} {outcome : Outcome} {target : PlannedPoll}
    {others : List PlannedPoll} {events : List (Nat × SessionEvent)}
    (hasks : session.Asks id (target :: others)) (hwf : WellFormed session)
    (hcalls : others ≠ [] → callsOf id (step now (.outcome id outcome) session).2 =
      stateCalls (others.take 1))
    (hrest : Progress id others events
      (Session.run events (step now (.outcome id outcome) session).1)) :
    Progress id (target :: others) ((now, .outcome id outcome) :: events)
      (Session.run ((now, .outcome id outcome) :: events) session) := by
  have hevent : SessionEvent.isOutcomeOf id (.outcome id outcome) = true :=
    beq_self_eq_true id
  constructor
  · rw [outcomesFor_cons_of_true hevent]
    exact hrest.asks
  · rw [outcomesFor_cons_of_true hevent]
    intro hmore
    have hmore := Nat.lt_of_succ_lt_succ hmore
    have hne : others ≠ [] := List.ne_nil_of_length_pos (Nat.zero_lt_of_lt hmore)
    rw [Session.run, Turn.andThen_snd, callsOf_append, hcalls hne, hrest.calls hmore]
    cases others with
    | nil => exact absurd rfl hne
    | cons next more => rfl
  · rw [outcomesFor_cons_of_true hevent]
    intro thread hother
    rw [List.take_succ_cons, List.forall_mem_cons] at hother
    have hfirst : stopsOf thread (step now (.outcome id outcome) session).2 = 0 := by
      by_contra hstop
      exact hother.1 ((hasks.of_stop hwf hstop).2 target others rfl)
    rw [Session.run, Turn.andThen_snd, stopsOf_append, hfirst, hrest.stops thread hother.2]

theorem Asks.run (hasks : session.Asks id remaining) (hwf : WellFormed session)
    {events : List (Nat × SessionEvent)} (hfew : outcomesFor id events ≤ remaining.length)
    (hpresent : ((Session.run events session).1.activity? id).isSome) :
    Progress id remaining events (Session.run events session) := by
  induction events generalizing session remaining with
  | nil => exact ⟨hasks, fun _ => rfl, fun _ _ => rfl⟩
  | cons entry events ih =>
      obtain ⟨now, event⟩ := entry
      have hthere := hasks.present_step hwf hpresent
      have hnext := wellFormed_step hwf now event
      cases hevent : event.isOutcomeOf id with
      | false =>
          rw [outcomesFor_cons_of_false hevent] at hfew
          obtain ⟨hstep, hcalls⟩ := hasks.step_other hwf now hevent hthere
          exact .other hasks hwf hevent hcalls (ih hstep hnext hfew hpresent)
      | true =>
          rw [outcomesFor_cons_of_true hevent] at hfew
          cases remaining with
          | nil => exact absurd hfew (by simp)
          | cons target others =>
              cases event with
              | outcome other outcome =>
                  have hsame : other = id := by simpa [SessionEvent.isOutcomeOf] using hevent
                  subst hsame
                  obtain ⟨hstep, hcalls⟩ := hasks.step_outcome hwf now outcome hthere
                  exact .answered hasks hwf hcalls
                    (ih hstep hnext (Nat.le_of_succ_le_succ hfew) hpresent)
              | request request => cases hevent
              | shutdown => cases hevent
              | release => cases hevent
              | wake other => cases hevent

/-- An answer that tells of a fresh pause is reported and taken over. -/
theorem Asks.reports {target : PlannedPoll} {others : List PlannedPoll}
    (hasks : session.Asks id (target :: others)) (hwf : WellFormed session) (now : Nat)
    {outcome : Outcome} {context : ExecutionContext} {state : RunState}
    (hget : session.contexts.get? target.thread = some context)
    (hfresh : Contexts.isFreshPause context target state = true)
    (hreply : BackendClient.runState target.suffix outcome = .ok state) :
    stopsOf target.thread (step now (.outcome id outcome) session).2 = 1 ∧
      (step now (.outcome id outcome) session).1.contexts.get? target.thread =
        some (context.pauseWith state) := by
  obtain ⟨timer, hactivity⟩ := hasks
  have haccepted : (session.contexts.applyPoll target state).1 = true :=
    Contexts.applyPoll_fst_eq_true_iff.mpr ⟨context, hget, hfresh⟩
  have hturn : react now (.outcome id outcome) session =
      (pollState target (.ok state)).andThen (pollNext id timer now others) session := by
    simp only [react, withActivity, hactivity, outcomeActivity, hreply]
  have hreport := reports_pollState haccepted
  have hreaped := reaped_reap ((reaction_react hwf now (.outcome id outcome)).wellFormed hwf).table
  have hlocal := @local_pollNext id (pollState target (.ok state) session).1
    ((hwf.table.congr rfl rfl).congr hreport.activities hreport.nextActivity) timer now others
  constructor
  · rw [step, Turn.andThen_snd, stopsOf_append, stopsOf_eq_zero hreaped.effects, hturn,
      Turn.andThen_snd, stopsOf_append, stopsOf_eq_zero hlocal.effects, hreport.stops, if_pos rfl]
  · have hcontexts : (step now (.outcome id outcome) session).1.contexts.contexts =
        (session.contexts.applyPoll target state).2.contexts := by
      rw [step, Turn.andThen_fst]
      apply (congrArg Backdrop.contexts hreaped.backdrop).trans
      rw [hturn]
      exact (congrArg Backdrop.contexts hlocal.backdrop).trans
        (congrArg Backdrop.contexts hreport.backdrop)
    rw [Contexts.get?_congr hcontexts, Contexts.get?_applyPoll, if_pos ⟨haccepted, rfl⟩, hget]
    rfl

/-- A fresh pause is reported once, and shown at the end of the tick. -/
theorem Asks.reported {target : PlannedPoll} {others : List PlannedPoll}
    (hasks : session.Asks id (target :: others)) (hwf : WellFormed session)
    (hothers : ∀ other ∈ others, other.thread ≠ target.thread)
    {after : List (Nat × SessionEvent)} (hfew : outcomesFor id after ≤ others.length)
    {now : Nat} {outcome : Outcome} {context : ExecutionContext} {state : RunState}
    (hget : session.contexts.get? target.thread = some context)
    (hfresh : Contexts.isFreshPause context target state = true)
    (hreply : BackendClient.runState target.suffix outcome = .ok state)
    (hpresent :
      ((Session.run ((now, .outcome id outcome) :: after) session).1.activity? id).isSome) :
    stopsOf target.thread (Session.run ((now, .outcome id outcome) :: after) session).2 = 1 ∧
      ∃ last, (Session.run ((now, .outcome id outcome) :: after) session).1.contexts.get?
        target.thread = some last ∧ last.Shows state := by
  have hwfNext := wellFormed_step hwf now (.outcome id outcome)
  obtain ⟨hone, hpaused⟩ := hasks.reports hwf now hget hfresh hreply
  have hnext := (hasks.step_outcome hwf now outcome (hasks.present_step hwf hpresent)).1
  have hsilent := (hnext.run hwfNext hfew hpresent).stops target.thread
    fun other hother => hothers other (List.mem_of_mem_take hother)
  obtain ⟨last, hlast, hshows⟩ := shows_run hwfNext hsilent hpaused ⟨rfl, rfl, rfl, rfl, rfl⟩
  refine ⟨?_, last, hlast, hshows⟩
  rw [Session.run, Turn.andThen_snd, stopsOf_append, hone, hsilent]

end Tick

/-- The contexts that run, in order. -/
def runningContexts (session : Session) : List ExecutionContext :=
  session.contexts.contexts.filter (·.running)

/-- What a tick that began with `start` has done once these events have happened. -/
structure TickKept (id : Nat) (start : Session × List Effect)
    (during : List (Nat × SessionEvent)) : Prop where
  /-- One context after the other is asked about, with every answer the next one. -/
  asked : outcomesFor id during < start.1.runningContexts.length →
    callsOf id (start.2 ++ (run during start.1).2) =
      (start.1.runningContexts.take (outcomesFor id during + 1)).map fun context =>
        .runState context.suffix
  /-- A pause is reported once and shown, unless a command of the context came between. -/
  reported : ∀ before now outcome after context state,
    during = before ++ (now, .outcome id outcome) :: after →
    start.1.runningContexts[outcomesFor id before]? = some context →
    context.inFlight = 0 →
    (∀ milestone ∈ chronicle context.thread before start.1, milestone = .stopped) →
    BackendClient.runState context.suffix outcome = .ok state →
    state.mode = .paused →
    stopsOf context.thread (run during start.1).2 = 1 ∧
      ∃ last, (run during start.1).1.contexts.get? context.thread = some last ∧ last.Shows state

section TickKept

variable {id : Nat} {start : Session × List Effect} {during : List (Nat × SessionEvent)}

theorem plannedPolls_eq (session : Session) :
    session.contexts.plannedPolls = session.runningContexts.map fun context =>
      { thread := context.thread, suffix := context.suffix, epoch := context.epoch } := rfl

/-- No two polls of a tick are about the same thread. -/
theorem nodup_plannedPolls {session : Session} (hwf : WellFormed session) :
    (session.contexts.plannedPolls.map (·.thread)).Nodup := by
  rw [plannedPolls_eq, List.map_map]
  exact hwf.threads.sublist (List.filter_sublist.map _)

/-- A planned poll stands between the ones before it and the ones behind it. -/
theorem split_of_getElem? {targets : List PlannedPoll} {position : Nat} {target : PlannedPoll}
    (htarget : targets[position]? = some target) :
    targets.drop position = target :: targets.drop (position + 1) := by
  obtain ⟨hposition, rfl⟩ := List.getElem?_eq_some_iff.mp htarget
  exact List.drop_eq_getElem_cons hposition

theorem ne_thread_of_split {targets others : List PlannedPoll} {position : Nat}
    {target : PlannedPoll} (hnodup : (targets.map (·.thread)).Nodup)
    (hsplit : targets.drop position = target :: others) :
    (∀ other ∈ targets.take position, other.thread ≠ target.thread) ∧
      ∀ other ∈ others, other.thread ≠ target.thread := by
  rw [← List.take_append_drop position targets, hsplit, List.map_append, List.nodup_append]
    at hnodup
  obtain ⟨-, hrest, hdisjoint⟩ := hnodup
  rw [List.map_cons, List.nodup_cons] at hrest
  constructor
  · intro other hother
    exact hdisjoint _ (List.mem_map_of_mem hother) _ List.mem_cons_self
  · intro other hother hsame
    exact hrest.1 (hsame ▸ List.mem_map_of_mem hother)

theorem chronicle_eq_nil {thread : Int} {events : List (Nat × SessionEvent)} {session : Session}
    (hquiet : ∀ milestone ∈ chronicle thread events session, milestone = .stopped)
    (hstops : stopsOf thread (run events session).2 = 0) :
    chronicle thread events session = [] := by
  rw [← count_stopped_chronicle, List.count_eq_zero] at hstops
  rw [List.eq_nil_iff_forall_not_mem]
  intro milestone hmilestone
  rw [hquiet milestone hmilestone] at hmilestone
  exact hstops hmilestone

theorem asked_of_asks (hwf : WellFormed start.1)
    (hfirst : callsOf id start.2 = stateCalls (start.1.contexts.plannedPolls.take 1))
    (hasks : start.1.Asks id start.1.contexts.plannedPolls)
    (hpresent : ((run during start.1).1.activity? id).isSome)
    (hmore : outcomesFor id during < start.1.runningContexts.length) :
    callsOf id (start.2 ++ (run during start.1).2) =
      (start.1.runningContexts.take (outcomesFor id during + 1)).map fun context =>
        .runState context.suffix := by
  have hlength : outcomesFor id during < start.1.contexts.plannedPolls.length := by
    rw [plannedPolls_eq, List.length_map]
    exact hmore
  have hrest := (hasks.run hwf (Nat.le_of_lt hlength) hpresent).calls hlength
  rw [callsOf_append, hfirst, hrest, stateCalls, stateCalls, ← List.map_append,
    Nat.add_comm, ← List.take_add, plannedPolls_eq, ← List.map_take, List.map_map]
  rfl

theorem reported_of_asks (hwf : WellFormed start.1)
    (hasks : start.1.Asks id start.1.contexts.plannedPolls)
    (hfew : outcomesFor id during ≤ start.1.runningContexts.length)
    (hpresent : ((run during start.1).1.activity? id).isSome)
    {before after : List (Nat × SessionEvent)} {now : Nat} {outcome : Outcome}
    {context : ExecutionContext} {state : RunState}
    (hduring : during = before ++ (now, .outcome id outcome) :: after)
    (hcontext : start.1.runningContexts[outcomesFor id before]? = some context)
    (hidle : context.inFlight = 0)
    (hquiet : ∀ milestone ∈ chronicle context.thread before start.1, milestone = .stopped)
    (hreply : BackendClient.runState context.suffix outcome = .ok state)
    (hpaused : state.mode = .paused) :
    stopsOf context.thread (run during start.1).2 = 1 ∧
      ∃ last, (run during start.1).1.contexts.get? context.thread = some last ∧
        last.Shows state := by
  -- The poller has asked about the contexts before this one and still asks about those behind it.
  have htarget : start.1.contexts.plannedPolls[outcomesFor id before]? = some
      { thread := context.thread, suffix := context.suffix, epoch := context.epoch } := by
    rw [plannedPolls_eq, List.getElem?_map, hcontext]
    rfl
  have hsplit := split_of_getElem? htarget
  obtain ⟨hfirst, hothers⟩ := ne_thread_of_split (nodup_plannedPolls hwf) hsplit
  have hlength : outcomesFor id before + (outcomesFor id after + 1) ≤
      start.1.contexts.plannedPolls.length := by
    rw [plannedPolls_eq, List.length_map]
    refine Nat.le_trans (Nat.le_of_eq ?_) hfew
    rw [hduring, outcomesFor_append, outcomesFor_cons_of_true (by simp [SessionEvent.isOutcomeOf])]
  have hrest : outcomesFor id after ≤
      (start.1.contexts.plannedPolls.drop (outcomesFor id before + 1)).length := by
    rw [List.length_drop]
    omega
  obtain ⟨stage, hpolls⟩ := hasks.polls
  have hwfMid := wellFormed_run hwf before
  rw [hduring, run_append, Turn.andThen_fst] at hpresent
  have hpresentMid := present_of_run hwfMid (Nat.lt_of_lt_of_le
    (hwf.table.lt_of_activity? hpolls) (nextActivity_le_run hwf before)) hpresent
  have hmid := hasks.run hwf (Nat.le_trans (Nat.le_add_right _ _) hlength) hpresentMid
  have hsilent := hmid.stops context.thread hfirst
  have hasksMid := hmid.asks
  rw [hsplit] at hasksMid
  -- Nothing has happened to the context so far, so that its pause is fresh.
  obtain ⟨hmem, hrunning⟩ := List.mem_filter.mp (List.mem_of_getElem? hcontext)
  have hget := get?_run_of_quiet hwf (chronicle_eq_nil hquiet hsilent)
  rw [Contexts.get?_of_mem hwf.threads hmem] at hget
  have hfresh : Contexts.isFreshPause context
      { thread := context.thread, suffix := context.suffix, epoch := context.epoch } state = true :=
    Contexts.isFreshPause_eq_true_iff.mpr ⟨hpaused, hrunning, hidle, rfl⟩
  rw [hduring, run_append, Turn.andThen_fst, Turn.andThen_snd, stopsOf_append, hsilent,
    Nat.zero_add]
  exact hasksMid.reported hwfMid hothers hrest hget hfresh hreply hpresent

end TickKept

/-- In every state of a run, what a context has in flight is what was begun for it and not
completed, however it ended, and before a shutdown these commands are the activities that wait for
an answer.  From every state, a tick asks about each running context once and in order, and
reports each pause that no command has overtaken, once. -/
theorem no_stop_lost (config : BackendConfig) (events : List (Nat × SessionEvent)) :
    (∀ thread context,
      (run events (ofConfig config)).1.contexts.get? thread = some context →
      context.inFlight + (chronicle thread events (ofConfig config)).countP isCompleted =
          (chronicle thread events (ofConfig config)).countP isBegan ∧
        ((run events (ofConfig config)).1.isShutDown = false →
          context.inFlight = (run events (ofConfig config)).1.activities.countP fun entry =>
            entry.2.role = .commanding thread)) ∧
      ∀ now event id, (run events (ofConfig config)).1.beginsTick now id event = true →
        ((step now event (run events (ofConfig config)).1).1.runningContexts = [] →
          callsOf id (step now event (run events (ofConfig config)).1).2 = []) ∧
        ∀ during,
          outcomesFor id during ≤
            (step now event (run events (ofConfig config)).1).1.runningContexts.length →
          ((run during (step now event (run events (ofConfig config)).1).1).1.activity? id).isSome →
          TickKept id (step now event (run events (ofConfig config)).1) during := by
  have hwf := wellFormed_run (WellFormed.ofConfig config) events
  generalize hsession : (run events (ofConfig config)).1 = session at hwf
  constructor
  · intro thread context hget
    have hledger := ledger_run config events thread
    rw [hsession] at hledger
    exact ⟨hledger.balanced context hget, fun hopen =>
      hledger.inFlight_eq_countP hwf.table hopen hget⟩
  · intro now event id hbegins
    obtain ⟨hfirst, hasks⟩ := asks_of_beginsTick hwf hbegins
    obtain ⟨-, -, stage, -, hpoller, -⟩ := react_of_beginsTick hbegins
    have hbelow := Nat.lt_of_lt_of_le (hwf.table.lt_of_activity? hpoller)
      (nextActivity_le_step hwf now event)
    have hstart := wellFormed_step hwf now event
    generalize step now event session = start at hfirst hasks hbelow hstart
    constructor
    · intro hnone
      rw [hfirst, plannedPolls_eq, hnone]
      rfl
    · intro during hfew hpresent
      have hthere := present_of_run hstart hbelow hpresent
      exact ⟨asked_of_asks hstart hfirst (hasks hthere) hpresent,
        fun before now outcome after context state =>
          reported_of_asks hstart (hasks hthere) hfew hpresent⟩

def replyOf (text : String) : Outcome := .ok { body := text.toUTF8.toList }

/-- A launch whose resource has started and whose only context goes on. -/
def launchedRun : List (Nat × SessionEvent) := [
  (0, .request { command := "launch", arguments := .ofMembers [("serverpath", .string "/srv")] }),
  (0, .wake 0),
  (1, .outcome 0 (replyOf "\x7b\"resource_name\":\"play\",\"resource_path\":\"play\"\x7d")),
  (2, .outcome 0 (replyOf ""))]

/-- The first tick after it reports a pause. -/
theorem no_stop_lost_launched :
    ∃ context ∈ (step 3 (.wake 1)
        (run launchedRun (ofConfig { contexts := .single })).1).1.runningContexts,
      stopsOf context.thread (run [(4, .outcome 1 (replyOf "\x7b\"resume_mode\":1\x7d"))]
        (step 3 (.wake 1) (run launchedRun (ofConfig { contexts := .single })).1).1).2 = 1 := by
  obtain ⟨-, hticks⟩ := no_stop_lost { contexts := .single } launchedRun
  obtain ⟨-, htick⟩ := hticks 3 (.wake 1) 1 (by decide +kernel)
  have hkept := htick [(4, .outcome 1 (replyOf "\x7b\"resume_mode\":1\x7d"))]
    (by decide +kernel) (by decide +kernel)
  have hidle : ((step 3 (.wake 1)
      (run launchedRun (ofConfig { contexts := .single })).1).1.runningContexts[0]?.map
        fun context => (context.suffix, context.inFlight)) = some ("", 0) := by
    decide +kernel
  have hmode : (BackendClient.runState "" (replyOf "\x7b\"resume_mode\":1\x7d")).toOption.map
      (·.mode) = some .paused := by
    decide +kernel
  obtain ⟨context, hcontext, hvalues⟩ := Option.map_eq_some_iff.mp hidle
  obtain ⟨hsuffix, hnone⟩ := Prod.mk.inj hvalues
  cases hreply : BackendClient.runState "" (replyOf "\x7b\"resume_mode\":1\x7d") with
  | error fault =>
      rw [hreply] at hmode
      cases hmode
  | ok state =>
      rw [hreply] at hmode
      have hreported := hkept.reported [] 4 _ [] context state rfl hcontext hnone
        (by simp [chronicle]) (by rw [hsuffix]; exact hreply) (Option.some.inj hmode)
      exact ⟨context, List.mem_of_getElem? hcontext, hreported.1⟩

end Session

end DebugBridge
