import DebugBridge.Proofs.Backend.Exchanges
import DebugBridge.Proofs.Session.Pauses
import DebugBridge.Proofs.Simulation.Reads

/-!
# Stops that are true

A stop is reported on the strength of one read of the backend.  Since that read no command of the
thread has been outstanding, so that none can have reached the backend, and what the backend then
had to tell is what the context shows.
-/

namespace DebugBridge

/-- Contexts differ in their suffixes. -/
theorem ContextLayout.thread_of_suffix {layout : ContextLayout} {thread other : Int}
    {suffix : String}
    (hthread : ((Contexts.ofLayout layout).address? thread).map (·.suffix) = some suffix)
    (hother : ((Contexts.ofLayout layout).address? other).map (·.suffix) = some suffix) :
    thread = other := by
  have hfound : ∀ named,
      ((Contexts.ofLayout layout).address? named).map (·.suffix) = some suffix →
      ∃ context ∈ (Contexts.ofLayout layout).contexts,
        context.thread = named ∧ context.suffix = suffix := by
    intro named hnamed
    simp only [Contexts.address?, Option.map_map, Option.map_eq_some_iff] at hnamed
    obtain ⟨context, hget, hsuffix⟩ := hnamed
    exact ⟨context, Contexts.mem_of_get? hget, Contexts.thread_of_get? hget, hsuffix⟩
  obtain ⟨first, hfirst, rfl, hfirstSuffix⟩ := hfound thread hthread
  obtain ⟨second, hsecond, rfl, hsecondSuffix⟩ := hfound other hother
  have hsame : first.suffix = second.suffix := hfirstSuffix.trans hsecondSuffix.symm
  cases layout with
  | single =>
      rw [List.mem_singleton.mp hfirst, List.mem_singleton.mp hsecond]
  | serverAndClient =>
      rcases List.mem_pair.mp hfirst with rfl | rfl <;>
        rcases List.mem_pair.mp hsecond with rfl | rfl
      · rfl
      · exact absurd hsame (by decide)
      · exact absurd hsame (by decide)
      · rfl

namespace World

/-! ## The time since a read -/

section Since

variable {config : BackendConfig} {backend : SimulatedBackend}

/-- Where nothing is in flight to a context before a shutdown, no call that sets its mode is under
way. -/
theorem made_ne_of_idle {events : List WorldEvent} {thread : Int} {suffix : String}
    {context : ExecutionContext}
    (hget : (run events (.ofConfig config backend)).session.contexts.get? thread = some context)
    (hidle : context.inFlight = 0)
    (hopen : (run events (.ofConfig config backend)).session.isShutDown = false)
    (hsuffix : ((Contexts.ofLayout config.contexts).address? thread).map (·.suffix) = some suffix)
    {id : Nat} {call : CallUnderWay}
    (hcall : (run events (.ofConfig config backend)).calls id = some call) (mode : ResumeMode) :
    call.made ≠ .setResumeMode suffix mode := by
  intro hmade
  rcases (commandsOk_run config backend events).commanding id call suffix mode hcall hmade with
    hshut | ⟨other, hcommand, hother⟩
  · rw [hopen] at hshut
    cases hshut
  · rw [address?_run] at hother
    obtain rfl := ContextLayout.thread_of_suffix hsuffix hother
    have hledger := Session.ledger_run config (history events (.ofConfig config backend)) thread
    rw [← session_ofConfig config backend] at hledger
    rw [hledger.not_isCommand hget hidle id] at hcommand
    cases hcommand

/-- Between a plan and an answer that came at its epoch, nothing was in flight to the context. -/
theorem idle_between {first second third : List WorldEvent} {thread : Int} {epoch : Nat}
    {planned last : ExecutionContext}
    (hplanned : (run first (.ofConfig config backend)).session.contexts.get? thread = some planned)
    (hepoch : epoch ≤ planned.epoch)
    (hlast : (run (first ++ second ++ third) (.ofConfig config backend)).session.contexts.get?
      thread = some last)
    (hsame : last.epoch = epoch) (hidle : last.inFlight = 0) :
    ∃ context, (run (first ++ second) (.ofConfig config backend)).session.contexts.get? thread =
      some context ∧ context.inFlight = 0 := by
  have hon : ∀ (earlier later : List WorldEvent) (context : ExecutionContext),
      (run earlier (.ofConfig config backend)).session.contexts.get? thread = some context →
      ∃ next, (run (earlier ++ later) (.ofConfig config backend)).session.contexts.get? thread =
        some next ∧ context.GoesOn next := by
    intro earlier later context hget
    rw [run_append, session_run]
    exact Session.goesOn_run (wellFormed_run config backend earlier) _ hget
  obtain ⟨context, hget, hfirst⟩ := hon first second planned hplanned
  obtain ⟨found, hfound, hrest⟩ := hon (first ++ second) third context hget
  rw [hlast, Option.some.injEq] at hfound
  subst hfound
  have hbefore := hfirst.epoch
  have hafter := hrest.epoch
  exact ⟨context, hget, (hrest.inFlight (by omega)).symm.trans hidle⟩

theorem mem_served {made : BackendCall} {events : List WorldEvent} {world : World}
    (hmade : made ∈ served events world) : ∃ earlier event later,
      events = earlier ++ event :: later ∧ (run earlier world).served? event = some made := by
  induction events generalizing world with
  | nil => cases hmade
  | cons event events ih =>
      rcases List.mem_append.mp hmade with hfirst | hrest
      · exact ⟨[], event, events, rfl, Option.mem_toList.mp hfirst⟩
      · obtain ⟨earlier, found, later, rfl, hfound⟩ := ih hrest
        exact ⟨event :: earlier, found, later, rfl, hfound⟩

theorem under_way_of_served {made : BackendCall} {world : World} {event : WorldEvent}
    (hmade : world.served? event = some made) :
    ∃ id, world.calls id = some { made } := by
  cases event with
  | process id =>
      simp only [served?] at hmade
      split at hmade
      · next hcall =>
          cases hmade
          exact ⟨id, hcall⟩
      · cases hmade
  | session now event => cases hmade
  | touch change => cases hmade

end Since

/-! ## What the backend has to tell -/

/-- Whatever else happens to the backend, it leaves a paused context paused with its snapshot. -/
def LeavesPaused (suffix : String) : List WorldEvent → World → Prop
  | [], _ => True
  | event :: events, world =>
    (∀ change, event = .touch change → (world.backend.context suffix).mode = .paused →
      SimulatedBackend.Keeps suffix world.backend (change world.backend)) ∧
    LeavesPaused suffix events (world.step event)

section Keeps

variable {suffix : String} {world : World} {event : WorldEvent}

theorem keeps_step (hpaused : (world.backend.context suffix).mode = .paused)
    (hserved : ∀ mode, world.served? event ≠ some (.setResumeMode suffix mode))
    (htouch : ∀ change, event = .touch change → (world.backend.context suffix).mode = .paused →
      SimulatedBackend.Keeps suffix world.backend (change world.backend)) :
    SimulatedBackend.Keeps suffix world.backend (world.step event).backend := by
  cases event with
  | session now event =>
      rw [step]
      split
      · exact .refl suffix world.backend
      · exact .refl suffix world.backend
  | process id =>
      rw [step, process]
      split
      · next made hcall =>
          refine SimulatedBackend.keeps_serve fun mode hmade => hserved mode ?_
          simp only [served?, hcall, hmade]
      · exact .refl suffix world.backend
  | touch change => exact htouch change rfl hpaused

/-- A paused context stays as it is as long as none of the session's calls sets its mode. -/
theorem keeps_run {events : List WorldEvent}
    (hpaused : (world.backend.context suffix).mode = .paused)
    (hserved : ∀ mode, .setResumeMode suffix mode ∉ served events world)
    (hleaves : LeavesPaused suffix events world) :
    SimulatedBackend.Keeps suffix world.backend (run events world).backend := by
  induction events generalizing world with
  | nil => exact .refl suffix world.backend
  | cons event events ih =>
      have hfirst : SimulatedBackend.Keeps suffix world.backend (world.step event).backend := by
        refine keeps_step hpaused (fun mode hmade => hserved mode ?_) hleaves.1
        exact List.mem_append_left _ (Option.mem_toList.mpr hmade)
      have hrest := ih (hfirst.1.trans hpaused)
        (fun mode hmade => hserved mode (List.mem_append_right _ hmade)) hleaves.2
      exact hfirst.trans hrest

end Keeps

/-! ## Stops -/

/-- The backend has the context of the thread paused, and the session shows what the backend has to
tell of it: its very snapshot, unless that has numbers that reading changes. -/
structure Mirrors (world : World) (thread : Int) (suffix : String) : Prop where
  paused : (world.backend.context suffix).mode = .paused
  shown : ∃ context, world.session.contexts.get? thread = some context ∧
    context.Shows (world.backend.context suffix).reread.runState ∧
    ((world.backend.context suffix).Legible →
      context.Shows (world.backend.context suffix).runState)

section Stops

variable {config : BackendConfig} {backend : SimulatedBackend} {events : List WorldEvent}
variable {now : Nat} {event : SessionEvent} {thread : Int}

/-- A stop that is reported at an event was read off the backend. -/
structure ReadStop (config : BackendConfig) (backend : SimulatedBackend)
    (events : List WorldEvent) (now : Nat) (event : SessionEvent)
    (read : Read (.ofConfig config backend)) (reply : HttpReply) (target : PlannedPoll)
    (state : RunState) : Prop where
  answered : event = .outcome read.activity (.ok reply)
  answers : read.Answers events read.activity target read.reply.status
  granted : BackendClient.isSuccess read.reply.status = true
  decoded : (RunState.decoder : TextDecoder RunState).decode reply.body = .ok state
  pauses : Session.Pauses (run events (.ofConfig config backend)).session event
    (Session.step now event (run events (.ofConfig config backend)).session) target state
  polling : ∃ stage, (run events (.ofConfig config backend)).session.activity? read.activity =
    some (.poll stage)
  suffix : ((Contexts.ofLayout config.contexts).address? target.thread).map (·.suffix) =
    some target.suffix

theorem exists_readStop
    (hpermits : (run events (.ofConfig config backend)).permits event = true)
    (hstop : stopsOf thread
      (Session.step now event (run events (.ofConfig config backend)).session).2 ≠ 0) :
    ∃ read reply target state, target.thread = thread ∧
      ReadStop config backend events now event read reply target state := by
  obtain ⟨target, state, hpauses, hthread⟩ :=
    Session.pauses_of_stop_step (wellFormed_run config backend events) hstop
  obtain ⟨id, outcome, timer, others, rfl, hasking, hreply⟩ :=
    Session.polledState?_eq_some hpauses.polled
  obtain ⟨reply, rfl, hdecoded⟩ := BackendClient.decoded_eq_ok hreply
  have hsuccess := BackendClient.isSuccess_of_decoded hreply
  obtain ⟨status, hcall⟩ :=
    (commandsOk_run config backend events).asking id timer target others hasking
  have hgranted : ∃ code, status = some code ∧ BackendClient.isSuccess code = true := by
    simp only [permits, hsuccess, Bool.not_true, Bool.false_or, Bool.and_eq_true, isGranted,
      hcall, Option.any_some, CallUnderWay.isGranted, Option.any_eq_true] at hpermits
    exact hpermits.2
  obtain ⟨code, rfl, hcode⟩ := hgranted
  obtain ⟨read, hanswers⟩ := exists_read hasking hcall
  obtain ⟨hevents, rfl, hmade, rfl, hasked⟩ := hanswers
  have haddressed := allAddressed_run config backend events _ _ hasking target List.mem_cons_self
  rw [address?_run] at haddressed
  exact ⟨read, reply, target, state, hthread, rfl, ⟨hevents, rfl, hmade, rfl, hasked⟩, hcode,
    hdecoded, hpauses, ⟨_, hasking⟩, haddressed⟩

namespace ReadStop

variable {read : Read (.ofConfig config backend)} {reply : HttpReply} {target : PlannedPoll}
variable {state : RunState}

theorem isOpen (hstop : ReadStop config backend events now event read reply target state) :
    (run events (.ofConfig config backend)).session.isShutDown = false := by
  obtain ⟨stage, hpolling⟩ := hstop.polling
  rw [Bool.eq_false_iff]
  intro hshut
  cases retired_run config backend events hshut _ _ hpolling

/-- At no moment since the read was a call under way that sets the mode of the context. -/
theorem made_ne (hstop : ReadStop config backend events now event read reply target state)
    {earlier later : List WorldEvent} (hsplit : read.between = earlier ++ later) {id : Nat}
    {call : CallUnderWay} (hcall : (run earlier read.after).calls id = some call)
    (mode : ResumeMode) : call.made ≠ .setResumeMode target.suffix mode := by
  have hwhole : events = read.before ++ .process read.activity :: earlier ++ later := by
    rw [← hstop.answers.events, Read.events, hsplit, List.append_assoc, List.cons_append]
  have hmiddle : run earlier read.after =
      run (read.before ++ .process read.activity :: earlier) (.ofConfig config backend) :=
    (run_append read.before (.process read.activity :: earlier) _).symm
  obtain ⟨last, hlast, hfresh⟩ := Contexts.applyPoll_fst_eq_true_iff.mp hstop.pauses.accepted
  obtain ⟨-, -, hidle, hepoch⟩ := Contexts.isFreshPause_eq_true_iff.mp hfresh
  obtain ⟨timer, others, hasked⟩ := hstop.answers.asked
  obtain ⟨planned, hplanned, hplannedEpoch⟩ :=
    plansKnown_run config backend read.before _ _ _ _ hasked target List.mem_cons_self
  have hopen : (run (read.before ++ .process read.activity :: earlier)
      (.ofConfig config backend)).session.isShutDown = false := by
    have hend := hstop.isOpen
    rw [hwhole, run_append, session_run] at hend
    exact Session.isShutDown_run (wellFormed_run config backend _) _ hend
  rw [hwhole] at hlast
  obtain ⟨context, hget, hcontext⟩ := idle_between hplanned hplannedEpoch hlast hepoch hidle
  rw [hmiddle] at hcall
  exact made_ne_of_idle hget hcontext hopen hstop.suffix hcall mode

/-- The backend has processed no call since the read that sets the mode of the context. -/
theorem not_served (hstop : ReadStop config backend events now event read reply target state)
    (mode : ResumeMode) : .setResumeMode target.suffix mode ∉ served read.between read.after := by
  intro hserved
  obtain ⟨earlier, processing, later, hsplit, hmade⟩ := mem_served hserved
  obtain ⟨id, hcall⟩ := under_way_of_served hmade
  exact hstop.made_ne hsplit hcall mode rfl

theorem run_between (hstop : ReadStop config backend events now event read reply target state) :
    run read.between read.after = run events (.ofConfig config backend) := by
  rw [read.run_between, hstop.answers.events]

/-- Nor is one outstanding once the stop is reported. -/
theorem made_ne_after (hstop : ReadStop config backend events now event read reply target state)
    {id : Nat} {call : CallUnderWay}
    (hcall : ((run events (.ofConfig config backend)).take now event).calls id = some call)
    (mode : ResumeMode) : call.made ≠ .setResumeMode target.suffix mode := by
  intro hmade
  rcases calls_take_eq_some hcall with ⟨hnew, -⟩ | ⟨hbefore, -⟩
  · have hwf := wellFormed_run config backend events
    rw [hmade] at hnew
    have hmode : ({ activity := id, suffix := target.suffix, mode } : ModeCall) ∈ modeCallsIn
        (Session.step now event (run events (.ofConfig config backend)).session).2 :=
      mem_modeCallsIn_iff.mpr hnew
    -- The poller that gets the answer attaches to nothing.
    obtain ⟨stage, hpolling⟩ := hstop.polling
    have hattachment := Session.attachment?_eq_none_of_role (.inr ⟨_, hstop.answered⟩) hpolling
      (by simp [Activity.role])
    have hnone : (run events (.ofConfig config backend)).session.modeCall? event = none := by
      rw [hstop.answered] at hattachment ⊢
      simp only [Session.modeCall?, hattachment, Option.bind_none]
    rw [Session.modeCallsIn_step hwf, hnone] at hmode
    cases hmode
  · rw [← hstop.run_between] at hbefore
    exact hstop.made_ne (List.append_nil _).symm hbefore mode hmade

/-- The context shows what the backend has to tell, if only the session ends pauses. -/
theorem mirrors (hstop : ReadStop config backend events now event read reply target state)
    (hreply : reply = read.reply.sent)
    (hleaves : LeavesPaused target.suffix read.between read.after) :
    Mirrors ((run events (.ofConfig config backend)).take now event) target.thread
      target.suffix := by
  have hmade := hstop.answers.made
  have hgrants : (run read.before (.ofConfig config backend)).backend.grants
      (.runState target.suffix) = true := by
    rw [SimulatedBackend.grants, ← hmade]
    exact hstop.granted
  have hbody : reply.body = ((run read.before (.ofConfig config backend)).backend.context
      target.suffix).reply.bytes := by
    rw [hreply, SimulatedReply.sent, Read.reply, hmade, SimulatedBackend.serve_runState hgrants]
    rfl
  obtain ⟨context, hget, hfresh⟩ := Contexts.applyPoll_fst_eq_true_iff.mp hstop.pauses.accepted
  obtain ⟨hmode, -⟩ := Contexts.isFreshPause_eq_true_iff.mp hfresh
  have hread : SimulatedBackend.Keeps target.suffix
      (run read.before (.ofConfig config backend)).backend read.after.backend := by
    rw [read.backend_after, hmade]
    exact SimulatedBackend.keeps_serve fun mode hsame => by cases hsame
  have hdecoded := hstop.decoded
  rw [hbody] at hdecoded
  have hstate := (RunState.decodes_reply _).decode hdecoded
  have hpaused : ((run read.before (.ofConfig config backend)).backend.context
      target.suffix).mode = .paused := by
    rw [hstate, SimulatedContext.mode_runState] at hmode
    exact hmode
  have hkeeps : SimulatedBackend.Keeps target.suffix
      (run read.before (.ofConfig config backend)).backend
      ((run events (.ofConfig config backend)).take now event).backend := by
    refine hread.trans ?_
    change SimulatedBackend.Keeps _ _ (run events (.ofConfig config backend)).backend
    rw [← hstop.run_between]
    exact keeps_run (hread.1.trans hpaused) hstop.not_served hleaves
  obtain ⟨last, hlast, hshows⟩ := hstop.pauses.shows
  rw [hstate, ← hkeeps.runState] at hshows
  refine ⟨hkeeps.1.trans hpaused, last, hlast, hshows, fun hlegible => ?_⟩
  rw [SimulatedContext.reread_of_legible hlegible] at hshows
  exact hshows

end ReadStop

end Stops

/-- A stop that is reported is true at the backend.  It was read off the backend, which since has
processed no call of the session that sets the mode of the context, and none is outstanding.  If
the reply is the backend's and nobody else ends pauses, the backend has the context paused and the
session shows the backend's snapshot, except for numbers that reading changes. -/
theorem stops_true_at_backend (config : BackendConfig) (backend : SimulatedBackend)
    (events : List WorldEvent) (now : Nat) (event : SessionEvent) (thread : Int)
    (hpermits : (run events (.ofConfig config backend)).permits event = true)
    (hstop : stopsOf thread
      (Session.step now event (run events (.ofConfig config backend)).session).2 ≠ 0) :
    ∃ (read : Read (.ofConfig config backend)) (reply : HttpReply) (suffix : String),
      read.events = events ∧ event = .outcome read.activity (.ok reply) ∧
      read.made = .runState suffix ∧
      ((Contexts.ofLayout config.contexts).address? thread).map (·.suffix) = some suffix ∧
      (∀ mode, .setResumeMode suffix mode ∉ served read.between read.after) ∧
      (∀ id call mode,
        (run (events ++ [.session now event]) (.ofConfig config backend)).calls id = some call →
          call.made ≠ .setResumeMode suffix mode) ∧
      (reply = read.reply.sent → LeavesPaused suffix read.between read.after →
        Mirrors (run (events ++ [.session now event]) (.ofConfig config backend)) thread
          suffix) := by
  obtain ⟨read, reply, target, state, rfl, hread⟩ := exists_readStop hpermits hstop
  have hlast : run (events ++ [.session now event]) (.ofConfig config backend) =
      (run events (.ofConfig config backend)).take now event := by
    rw [run_append]
    exact if_pos hpermits
  rw [hlast]
  exact ⟨read, reply, target.suffix, hread.answers.events, hread.answered, hread.answers.made,
    hread.suffix, hread.not_served, fun _ _ mode hcall => hread.made_ne_after hcall mode,
    hread.mirrors⟩

/-- The float after that of `1e-24`.  It is printed as `1.0000000000000001e-24`, which reads as the
float of `1e-24`. -/
def misread : Binary64 := ⟨0x3af357c299a88ea8⟩

/-- A resource is attached, its script pauses, and the poller asks. -/
def pausedRun : List WorldEvent := [
  .session 0 (.request {
    command := "launch"
    arguments := .ofMembers [("serverpath", .string "/srv")] }),
  .session 0 (.wake 0),
  .process 0,
  .session 1 (.outcome 0 (.ok {
    body := "\x7b\"resource_name\":\"play\",\"resource_path\":\"play\"\x7d".toUTF8.toList })),
  .process 0,
  .session 1 (.outcome 0 (.ok {})),
  .touch fun backend => backend.pause "" {
    file := "play/a.lua"
    line := 2
    localVariables := [("x", .number (.float misread))] },
  .session 2 (.wake 1)]

/-- The poller gets the backend's own reply. -/
def pauseSeen : SessionEvent :=
  .outcome 1 (.ok ((run pausedRun (.ofConfig { contexts := .single } {})).backend.serve
    (.runState "")).1.sent)

/-- The world once the poller has its answer. -/
def pausedWorld : World :=
  run (pausedRun ++ [.process 1] ++ [.session 3 pauseSeen]) (.ofConfig { contexts := .single } {})

theorem stops_true_at_backend_paused : Mirrors pausedWorld 1 "" := by
  obtain ⟨read, reply, suffix, hevents, hseen, hmade, hsuffix, -, -, hmirrors⟩ :=
    stops_true_at_backend { contexts := .single } {} (pausedRun ++ [.process 1]) 3 pauseSeen 1
      (by decide +kernel) (by decide +kernel)
  rw [pauseSeen, SessionEvent.outcome.injEq, Except.ok.injEq] at hseen
  obtain ⟨hactivity, hreply⟩ := hseen
  have haddress : ((Contexts.ofLayout .single).address? 1).map (·.suffix) = some "" := by decide
  obtain rfl : "" = suffix := Option.some.inj (haddress.symm.trans hsuffix)
  -- The run has only one event at which a call of the poller is processed.
  rw [Read.events, ← hactivity, eq_comm,
    List.append_cons_inj_of_notMem (by simp [pausedRun]) (by simp)] at hevents
  obtain ⟨hbefore, -, hbetween⟩ := hevents
  refine hmirrors ?_ ?_
  · rw [← hreply, hbefore, Read.reply, hmade]
  · rw [← hbetween]
    trivial

/-- The stop of that run is reported, but the context does not show the backend's very snapshot. -/
theorem paused_number_differs :
    (run (pausedRun ++ [.process 1]) (.ofConfig { contexts := .single } {})).permits pauseSeen ∧
      stopsOf 1 (Session.step 3 pauseSeen
        (run (pausedRun ++ [.process 1]) (.ofConfig { contexts := .single } {})).session).2 = 1 ∧
      (pausedWorld.backend.context "").mode = .paused ∧
      ¬ ∃ context, pausedWorld.session.contexts.get? 1 = some context ∧
        context.Shows (pausedWorld.backend.context "").runState := by
  refine ⟨by decide +kernel, by decide +kernel, by decide +kernel, ?_⟩
  rintro ⟨context, hget, hshows⟩
  have hstored : (pausedWorld.session.contexts.get? 1).map (·.localVariables) =
      some [("x", .plain "1e-24")] := by decide +kernel
  have hpaused : (pausedWorld.backend.context "").runState.localVariables =
      [("x", .plain "1.0000000000000001e-24")] := by decide +kernel
  rw [hget, Option.map_some, Option.some.injEq, hshows.localVariables, hpaused] at hstored
  exact absurd hstored (by decide)

end World

end DebugBridge
