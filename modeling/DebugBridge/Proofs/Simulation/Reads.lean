import DebugBridge.Proofs.Session.Asking
import DebugBridge.Proofs.Session.Outstanding
import DebugBridge.Proofs.Simulation.World

/-!
# Reads of the backend

The poller waits for the call that its question makes, and until a shutdown every call that sets a
mode belongs to a command that is outstanding.  Each outcome that the poller gets was read at one
moment of the run.
-/

namespace DebugBridge

namespace World

/-- The call that the backend processes at an event. -/
def served? (world : World) : WorldEvent → Option BackendCall
  | .process id =>
    match world.calls id with
    | some { made, status := none } => some made
    | _ => none
  | _ => none

/-- The calls that the backend processes over a run, in order. -/
def served : List WorldEvent → World → List BackendCall
  | [], _ => []
  | event :: events, world => (world.served? event).toList ++ served events (world.step event)

/-- The backend processed a call during a run, and its outcome has not been taken since. -/
structure Read (start : World) where
  before : List WorldEvent
  activity : Nat
  made : BackendCall
  between : List WorldEvent
  asked : (run before start).calls activity = some { made }
  waits : Session.outcomesFor activity
    (history between ((run before start).process activity)) = 0

namespace Read

variable {start : World}

/-- The run that the call was processed in. -/
def events (read : Read start) : List WorldEvent :=
  read.before ++ .process read.activity :: read.between

/-- The world right after the backend has processed the call. -/
def after (read : Read start) : World := (run read.before start).process read.activity

/-- What the backend replied. -/
def reply (read : Read start) : SimulatedReply :=
  ((run read.before start).backend.serve read.made).1

theorem run_between (read : Read start) : run read.between read.after = run read.events start := by
  rw [events, run_append]
  rfl

theorem backend_after (read : Read start) :
    read.after.backend = ((run read.before start).backend.serve read.made).2 := by
  simp only [after, process, read.asked]

/-- A call that is processed is read. -/
def ofProcess {before : List WorldEvent} {id : Nat} {made : BackendCall}
    (hasked : (run before start).calls id = some { made }) : Read start where
  before := before
  activity := id
  made := made
  between := []
  asked := hasked
  waits := rfl

/-- As long as its outcome is not taken, a read stays one. -/
def snoc (read : Read start) {event : WorldEvent}
    (hother : Session.outcomesFor read.activity ((run read.events start).taken event) = 0) :
    Read start where
  before := read.before
  activity := read.activity
  made := read.made
  between := read.between ++ [event]
  asked := read.asked
  waits := by
    have hbetween : run read.between ((run read.before start).process read.activity) =
        run read.events start := read.run_between
    rw [history_append, Session.outcomesFor_append, read.waits, hbetween, history, history,
      List.append_nil, hother]

theorem events_snoc (read : Read start) {event : WorldEvent}
    (hother : Session.outcomesFor read.activity ((run read.events start).taken event) = 0) :
    (read.snoc hother).events = read.events ++ [event] := by
  simp [events, snoc]

end Read

/-! ## Sessions of a run -/

section Runs

variable (config : BackendConfig) (backend : SimulatedBackend) (events : List WorldEvent)

theorem session_ofConfig : (run events (.ofConfig config backend)).session =
    (Session.run (history events (.ofConfig config backend)) (.ofConfig config)).1 :=
  session_run events (.ofConfig config backend)

theorem wellFormed_run : Session.WellFormed (run events (.ofConfig config backend)).session := by
  rw [session_ofConfig]
  exact Session.wellFormed_run (Session.WellFormed.ofConfig config) _

theorem allAddressed_run :
    Session.AllAddressed (run events (.ofConfig config backend)).session := by
  rw [session_ofConfig]
  exact Session.allAddressed_run config _

theorem plansKnown_run : Session.PlansKnown (run events (.ofConfig config backend)).session := by
  rw [session_ofConfig]
  exact Session.plansKnown_run config _

theorem retired_run : Session.Retired (run events (.ofConfig config backend)).session := by
  rw [session_ofConfig]
  exact Session.retired_run config _

theorem address?_run (thread : Int) :
    (run events (.ofConfig config backend)).session.contexts.address? thread =
      (Contexts.ofLayout config.contexts).address? thread := by
  rw [session_ofConfig, Session.address?_run (Session.WellFormed.ofConfig config)]
  rfl

end Runs

/-! ## Questions and commands -/

/-- The poller waits for the answer to its question, and commands for that to theirs. -/
structure CommandsOk (world : World) : Prop where
  asking : ∀ id timer target others,
    world.session.activity? id = some (.poll (.asking timer target others)) →
      ∃ status, world.calls id = some { made := .runState target.suffix, status }
  commanding : ∀ id call suffix mode, world.calls id = some call →
    call.made = .setResumeMode suffix mode → world.session.isShutDown = true ∨
      ∃ thread, world.session.isCommand thread id = true ∧
        (world.session.contexts.address? thread).map (·.suffix) = some suffix

section Steps

variable {world : World} {now id : Nat} {event : SessionEvent}

theorem calls_take_of_none (hcalls : callsOf id (Session.step now event world.session).2 = [])
    (hother : event.isOutcomeOf id = false) : (world.take now event).calls id = world.calls id := by
  have hlast : (callsOf id (Session.step now event world.session).2).getLast? = none := by
    rw [hcalls]
    rfl
  simp only [take, callsAfter, hlast, hother, Bool.false_eq_true, if_false]

/-- A call under way after an event was made at it, or waits on. -/
theorem calls_take_eq_some {call : CallUnderWay}
    (hcall : (world.take now event).calls id = some call) :
    call.made ∈ callsOf id (Session.step now event world.session).2 ∧ call.status = none ∨
      world.calls id = some call ∧ event.isOutcomeOf id = false := by
  simp only [take, callsAfter] at hcall
  split at hcall
  · next made hlast =>
      cases hcall
      exact .inl ⟨List.mem_of_getLast? hlast, rfl⟩
  · split at hcall
    · cases hcall
    · next hother => exact .inr ⟨hcall, Bool.eq_false_iff.mpr hother⟩

theorem CommandsOk.ofConfig (config : BackendConfig) (backend : SimulatedBackend) :
    CommandsOk (.ofConfig config backend) where
  asking id timer target others hactivity := by cases hactivity
  commanding id call suffix mode hcall := by cases hcall

theorem CommandsOk.take (hok : CommandsOk world) (hwf : Session.WellFormed world.session)
    (haddressed : Session.AllAddressed world.session) (now : Nat) (event : SessionEvent) :
    CommandsOk (world.take now event) := by
  have hopen : (world.take now event).session.isShutDown = false →
      world.session.isShutDown = false := fun hopen =>
    Session.isShutDown_run hwf [(now, event)] hopen
  constructor
  · intro id timer target others hafter
    cases Session.questions_step hwf hafter with
    | kept hasked hevent hcalls =>
        rw [calls_take_of_none hcalls hevent]
        exact hok.asking id timer target others hasked
    | next hasked hcalls => exact ⟨none, calls_take_of_call hcalls⟩
    | planned hplanned hcalls => exact ⟨none, calls_take_of_call hcalls⟩
  · intro id call suffix mode hcall hmade
    cases hshut : (world.take now event).session.isShutDown with
    | true => exact .inl rfl
    | false =>
        have haddress := Session.address?_step hwf now event
        rcases calls_take_eq_some hcall with ⟨hnew, -⟩ | ⟨hbefore, hother⟩
        · rw [hmade] at hnew
          have hmode : ({ activity := id, suffix, mode } : ModeCall) ∈
              modeCallsIn (Session.step now event world.session).2 := mem_modeCallsIn_iff.mpr hnew
          rw [Session.modeCallsIn_step hwf, Option.mem_toList] at hmode
          obtain ⟨thread, hcommand, hsuffix⟩ :=
            Session.isCommand_of_modeCall? hwf haddressed hmode hshut
          exact .inr ⟨thread, hcommand, (congrArg _ (haddress thread)).trans hsuffix⟩
        · rcases hok.commanding id call suffix mode hbefore hmade with
            hbefore | ⟨thread, hcommand, hsuffix⟩
          · rw [hopen hshut] at hbefore
            cases hbefore
          · exact .inr ⟨thread, Session.isCommand_step_of_other hwf hcommand hother hshut,
              (congrArg _ (haddress thread)).trans hsuffix⟩

/-- A call under way after the backend has processed one was just processed, or is as before. -/
theorem calls_process_eq_some {other : Nat} {call : CallUnderWay}
    (hcall : (world.process other).calls id = some call) :
    world.calls id = some call ∨ id = other ∧ world.calls other = some { made := call.made } ∧
      call.status = some (world.backend.serve call.made).1.status := by
  unfold process at hcall
  split at hcall
  · next made hasked =>
      dsimp only at hcall
      by_cases hid : id = other
      · rw [hid, Function.update_self, Option.some.injEq] at hcall
        rw [← hcall]
        exact .inr ⟨hid, hasked, rfl⟩
      · rw [Function.update_of_ne hid] at hcall
        exact .inl hcall
  · exact .inl hcall

/-- What is processed stays under way. -/
theorem made_process (world : World) (other id : Nat) :
    ((world.process other).calls id).map (·.made) = (world.calls id).map (·.made) := by
  unfold process
  split
  · next made hasked =>
      dsimp only
      by_cases hid : id = other
      · rw [hid, Function.update_self, hasked]
        rfl
      · rw [Function.update_of_ne hid]
  · rfl

theorem CommandsOk.process (hok : CommandsOk world) (other : Nat) :
    CommandsOk (world.process other) := by
  have hsession := session_process world other
  constructor
  · intro id timer target others hactivity
    rw [hsession] at hactivity
    obtain ⟨status, hcall⟩ := hok.asking id timer target others hactivity
    have hmade := made_process world other id
    rw [hcall] at hmade
    obtain ⟨⟨made, status⟩, hfound, rfl⟩ := Option.map_eq_some_iff.mp hmade
    exact ⟨status, hfound⟩
  · intro id call suffix mode hcall hmade
    rw [hsession]
    have hbefore := made_process world other id
    rw [hcall] at hbefore
    obtain ⟨before, hfound, hsame⟩ := Option.map_eq_some_iff.mp hbefore.symm
    exact hok.commanding id before suffix mode hfound (hsame.trans hmade)

theorem CommandsOk.step (hok : CommandsOk world) (hwf : Session.WellFormed world.session)
    (haddressed : Session.AllAddressed world.session) (event : WorldEvent) :
    CommandsOk (world.step event) := by
  cases event with
  | session now event =>
      rw [World.step]
      split
      · exact hok.take hwf haddressed now event
      · exact hok
  | process other => exact hok.process other
  | touch change => exact ⟨hok.asking, hok.commanding⟩

end Steps

theorem commandsOk_run (config : BackendConfig) (backend : SimulatedBackend)
    (events : List WorldEvent) : CommandsOk (run events (.ofConfig config backend)) := by
  induction events using List.reverseRecOn with
  | nil => exact CommandsOk.ofConfig config backend
  | append_singleton events event ih =>
      rw [run_append]
      exact ih.step (wellFormed_run config backend events) (allAddressed_run config backend events)
        event

/-! ## The read behind an answer -/

section Answers

variable {config : BackendConfig} {backend : SimulatedBackend} {events : List WorldEvent}
variable {id : Nat} {timer : Timer} {target : PlannedPoll} {others : List PlannedPoll}

/-- The read answers a question of the poller. -/
structure Read.Answers {start : World} (read : Read start) (events : List WorldEvent) (id : Nat)
    (target : PlannedPoll) (status : Nat) : Prop where
  events : read.events = events
  activity : read.activity = id
  made : read.made = .runState target.suffix
  status : status = read.reply.status
  /-- The question was asked by then. -/
  asked : ∃ timer others, (run read.before start).session.activity? id =
    some (.poll (.asking timer target others))

theorem Read.Answers.snoc {start : World} {read : Read start} {status : Nat} {event : WorldEvent}
    (hanswers : read.Answers events id target status)
    (hother : Session.outcomesFor id ((run events start).taken event) = 0) :
    ∃ read : Read start, read.Answers (events ++ [event]) id target status := by
  obtain ⟨rfl, rfl, hmade, hstatus, hasked⟩ := hanswers
  exact ⟨read.snoc hother, read.events_snoc hother, rfl, hmade, hstatus, hasked⟩

/-- What the poller is told was read during the run. -/
theorem exists_read {status : Nat}
    (hasks : (run events (.ofConfig config backend)).session.activity? id =
      some (.poll (.asking timer target others)))
    (hcall : (run events (.ofConfig config backend)).calls id =
      some { made := .runState target.suffix, status := some status }) :
    ∃ read : Read (.ofConfig config backend), read.Answers events id target status := by
  induction events using List.reverseRecOn generalizing timer others with
  | nil => cases hasks
  | append_singleton events event ih =>
      rw [run_append] at hasks hcall
      cases event with
      | session now event =>
          by_cases hpermits : (run events (.ofConfig config backend)).permits event = true
          · have hstep : run [.session now event] (run events (.ofConfig config backend)) =
                (run events (.ofConfig config backend)).take now event := if_pos hpermits
            rw [hstep] at hasks hcall
            cases Session.questions_step (wellFormed_run config backend events) hasks with
            | kept hasked hevent hcalls =>
                rw [calls_take_of_none hcalls hevent] at hcall
                obtain ⟨read, hanswers⟩ := ih hasked hcall
                refine hanswers.snoc ?_
                rw [taken, if_pos hpermits]
                exact Session.outcomesFor_cons_of_false hevent []
            | next hasked hcalls =>
                rw [calls_take_of_call hcalls] at hcall
                cases hcall
            | planned hplanned hcalls =>
                rw [calls_take_of_call hcalls] at hcall
                cases hcall
          · have hstep : run [.session now event] (run events (.ofConfig config backend)) =
                run events (.ofConfig config backend) := if_neg hpermits
            rw [hstep] at hasks hcall
            obtain ⟨read, hanswers⟩ := ih hasks hcall
            refine hanswers.snoc ?_
            rw [taken, if_neg hpermits]
            rfl
      | process other =>
          have hstep : run [.process other] (run events (.ofConfig config backend)) =
              (run events (.ofConfig config backend)).process other := rfl
          rw [hstep] at hasks hcall
          rw [session_process] at hasks
          rcases calls_process_eq_some hcall with hbefore | ⟨rfl, hasked, hstatus⟩
          · obtain ⟨read, hanswers⟩ := ih hasks hbefore
            exact hanswers.snoc rfl
          · exact ⟨.ofProcess hasked, rfl, rfl, rfl, Option.some.inj hstatus, timer, others, hasks⟩
      | touch change =>
          obtain ⟨read, hanswers⟩ := ih hasks hcall
          exact hanswers.snoc rfl

end Answers

end World

end DebugBridge
