import DebugBridge.Proofs.Session.AttachProtocol
import DebugBridge.Proofs.Session.Outstanding
import DebugBridge.Proofs.Session.SyncCalls

/-!
# Shutdown

Once a session is shut down nothing in it attaches or polls, and no event starts anything that
would.  What goes on are syncs and the commands that requests ask for; of itself the session tells
the editor only that the debugging has ended, once for each request to end it.
-/

namespace DebugBridge

/-- The call watches the backend: it asks for the resource or for the state of a context. -/
def BackendCall.Watches : BackendCall → Prop
  | .info _ => True
  | .runState _ => True
  | _ => False

/-- None of the calls watches the backend. -/
def Unwatched (effects : List Effect) : Prop :=
  ∀ id made, Effect.call id made ∈ effects → ¬ made.Watches

namespace Unwatched

variable {first second : List Effect}

theorem append (hfirst : Unwatched first) (hsecond : Unwatched second) :
    Unwatched (first ++ second) := by
  intro id made hmem
  rcases List.mem_append.mp hmem with hmem | hmem
  · exact hfirst id made hmem
  · exact hsecond id made hmem

theorem nil : Unwatched [] := fun _ _ hmem => absurd hmem List.not_mem_nil

theorem of_noCall (hwithin : ∀ effect ∈ first, effect.Within noCall) : Unwatched first :=
  fun _ _ hmem => absurd hmem (Session.not_call_of_noCall hwithin)

end Unwatched

namespace SessionEvent

/-- A request to end the debugging. -/
def endsDebugging : SessionEvent → Bool
  | .request asked => asked.command ∈ Session.endCommands
  | _ => false

/-- The event shuts the session down. -/
def ShutsDown (event : SessionEvent) : Prop := event = .shutdown ∨ event.endsDebugging = true

end SessionEvent

namespace Session

/-! ## Calls that go on -/

section Calls

variable {id : Nat} {session : Session}

theorem unwatched_await (session : Session) (activity : Activity) {call : BackendCall}
    (hcall : ¬ call.Watches) : Unwatched (await id activity call session).2 := by
  intro caller made hmem
  obtain ⟨rfl, rfl⟩ := Effect.call.inj (List.mem_singleton.mp hmem)
  exact hcall

theorem unwatched_sleep (session : Session) (activity : Activity) (deadline : Nat) :
    Unwatched (sleep id activity deadline session).2 := by
  intro caller made hmem
  cases List.mem_singleton.mp hmem

theorem unwatched_evaluateTick (session : Session) (request : Request) (expression : String)
    (deadline now : Nat) :
    Unwatched (evaluateTick id request expression deadline now session).2 := by
  unfold evaluateTick
  split
  · exact unwatched_await session _ not_false
  · exact unwatched_sleep session _ _

theorem unwatched_evaluateSubmitted (session : Session) (request : Request) (expression : String)
    (now : Nat) (result : Except BackendFault Unit) :
    Unwatched (evaluateSubmitted id request expression now result session).2 := by
  unfold evaluateSubmitted
  rw [Turn.andThen_snd]
  refine .append ?_ (unwatched_evaluateTick _ request expression _ now)
  cases result with
  | ok _ => exact .nil
  | error fault => exact .of_noCall (silent_log _ _ _ session).effects

/-- An activity that outlasts a shutdown does not watch the backend when it goes on. -/
theorem unwatched_wakeActivity {activity : Activity} (hlasting : activity.endsAtShutdown = false)
    (hsync : ∀ stage, activity ≠ .sync stage) (now : Nat) :
    Unwatched (wakeActivity now id session activity session).2 := by
  cases activity with
  | attach thread stage => cases hlasting
  | poll stage => cases hlasting
  | sync stage => exact absurd rfl (hsync stage)
  | resume request thread suffix mode stage =>
      cases stage with
      | starting => exact unwatched_await session _ not_false
      | calling => exact .nil
  | evaluate request expression stage =>
      cases stage with
      | starting => exact unwatched_await session _ not_false
      | submitting => exact .nil
      | sleeping deadline => exact unwatched_evaluateTick session request expression deadline now
      | reading => exact .nil
  | restart request resource stage =>
      cases stage with
      | starting => exact unwatched_await session _ not_false
      | calling => exact .nil

/-- Nor when its call has an outcome. -/
theorem unwatched_outcomeActivity {activity : Activity}
    (hlasting : activity.endsAtShutdown = false) (hsync : ∀ stage, activity ≠ .sync stage)
    (now : Nat) (outcome : Outcome) :
    Unwatched (outcomeActivity now id outcome activity session).2 := by
  have hanswered : ∀ {answer : Turn}, Silent session (answer session) →
      Unwatched (answer.andThen (finish id) session).2 := by
    intro answer hsilent
    rw [Turn.andThen_snd]
    exact .append (.of_noCall hsilent.effects) .nil
  cases activity with
  | attach thread stage => cases hlasting
  | poll stage => cases hlasting
  | sync stage => exact absurd rfl (hsync stage)
  | resume request thread suffix mode stage =>
      cases stage with
      | starting => exact .nil
      | calling =>
          simp only [outcomeActivity, Turn.all_cons, Turn.all_nil, Turn.andThen_idle,
            Turn.andThen_snd]
          refine .append .nil (.append (.of_noCall ?_) .nil)
          exact (silent_answerResume request thread mode _ _).effects
  | evaluate request expression stage =>
      cases stage with
      | starting => exact .nil
      | submitting => exact unwatched_evaluateSubmitted session request expression now _
      | sleeping deadline => exact .nil
      | reading => exact hanswered (silent_answerEvaluate request _ session)
  | restart request resource stage =>
      cases stage with
      | starting => exact .nil
      | calling => exact hanswered (silent_answerRestart request _ session)

end Calls

/-! ## Sessions that are shut down -/

/-- The session is shut down, and nothing that a shutdown ends is left. -/
structure ShutDown (session : Session) : Prop where
  wellFormed : WellFormed session
  isShutDown : session.isShutDown = true
  lasting : ∀ id activity, session.activity? id = some activity → activity.endsAtShutdown = false

section Steps

variable {session : Session} {event : SessionEvent}

theorem isShutDown_reap (session : Session) :
    (reap session).1.isShutDown = session.isShutDown := by
  unfold reap
  split <;> rfl

theorem isShutDown_of_shutsDown (hends : event.ShutsDown) (now : Nat) :
    (step now event session).1.isShutDown = true := by
  rw [step, Turn.andThen_fst, isShutDown_reap]
  rcases hends with rfl | hends
  · rfl
  · cases event with
    | request request =>
        have hcommand : request.command ∈ endCommands := of_decide_eq_true hends
        simp only [endCommands, List.mem_cons, List.not_mem_nil, or_false] at hcommand
        rcases hcommand with hcommand | hcommand <;> simp only [react, handle, hcommand] <;> rfl
    | shutdown => cases hends
    | release => cases hends
    | wake id => cases hends
    | outcome id outcome => cases hends

/-- Whatever was under way is gone with the event that shuts the session down. -/
theorem ShutDown.of_shutsDown (hretired : session.Retired) (hwf : WellFormed session)
    (hends : event.ShutsDown) (now : Nat) : (step now event session).1.ShutDown where
  wellFormed := wellFormed_step hwf now event
  isShutDown := isShutDown_of_shutsDown hends now
  lasting := hretired.step hwf now event (isShutDown_of_shutsDown hends now)

theorem ShutDown.step (hshut : session.ShutDown) (now : Nat) (event : SessionEvent) :
    (step now event session).1.ShutDown := by
  have hflag : (Session.step now event session).1.isShutDown = true := by
    by_contra hopen
    rw [Bool.not_eq_true] at hopen
    have hbefore := isShutDown_run hshut.wellFormed [(now, event)] hopen
    rw [hshut.isShutDown] at hbefore
    cases hbefore
  exact ⟨wellFormed_step hshut.wellFormed now event, hflag,
    Retired.step (fun _ => hshut.lasting) hshut.wellFormed now event hflag⟩

/-! ## One step -/

/-- Nothing is attached to in this step, and nothing watches the backend. -/
structure QuietStep (session : Session) (now : Nat) (event : SessionEvent) : Prop where
  unwatched : Unwatched (Session.step now event session).2
  unattached : session.attachment? event = none
  events : eventsIn (Session.step now event session).2 =
    if event.endsDebugging then [terminatedEvent] else []

theorem unwatched_step (hwf : WellFormed session) {now : Nat}
    (hreact : Unwatched (react now event session).2) :
    Unwatched (Session.step now event session).2 := by
  intro id made hmem
  rw [← mem_callsOf, callsOf_step hwf, mem_callsOf] at hmem
  exact hreact id made hmem

theorem eventsIn_step (session : Session) (now : Nat) (event : SessionEvent) :
    eventsIn (Session.step now event session).2 =
      (session.notices event).filterMap Notice.event? := by
  rw [eventsIn, noticesIn_step]

theorem events_request (session : Session) (request : Request) :
    (session.notices (.request request)).filterMap Notice.event? =
      if SessionEvent.endsDebugging (.request request) then [terminatedEvent] else [] := by
  by_cases herrand : (session.errand? request).isSome <;>
    by_cases hends : request.command ∈ endCommands <;>
    simp [notices, SessionEvent.endsDebugging, herrand, hends, Notice.event?, List.filterMap_cons]

/-- A request by itself attaches to nothing and calls nobody. -/
theorem quietStep_request (hwf : WellFormed session) (now : Nat) (request : Request) :
    QuietStep session now (.request request) where
  unwatched := unwatched_step hwf fun id made hmem => by
    rw [← mem_callsOf, (reaction_react hwf now _).callsOf_request id] at hmem
    cases hmem
  unattached := rfl
  events := (eventsIn_step session now _).trans (events_request session request)

theorem quietStep_shutdown (hwf : WellFormed session) (now : Nat) :
    QuietStep session now .shutdown where
  unwatched := unwatched_step hwf (.of_noCall (within_cancel _ { session with isShutDown := true }))
  unattached := rfl
  events := eventsIn_step session now .shutdown

/-- The event that shuts the session down lets nothing pass itself. -/
theorem quietStep_of_shutsDown (hwf : WellFormed session) (hends : event.ShutsDown) (now : Nat) :
    QuietStep session now event := by
  rcases hends with rfl | hends
  · exact quietStep_shutdown hwf now
  · cases event with
    | request request => exact quietStep_request hwf now request
    | shutdown => cases hends
    | release => cases hends
    | wake id => cases hends
    | outcome id outcome => cases hends

/-- With nothing left that attaches or polls, a reply is news for requests only. -/
theorem ShutDown.events_outcome (hshut : session.ShutDown) (id : Nat) (outcome : Outcome) :
    (session.notices (.outcome id outcome)).filterMap Notice.event? = [] := by
  simp only [notices]
  split
  · next activity hactivity =>
      have hlasting := hshut.lasting id activity hactivity
      unfold outcomeNotices
      split
      · cases hlasting
      · cases hlasting
      · cases hlasting
      · rfl
      · split <;> rfl
      · rfl
      · rfl
  · rfl

theorem ShutDown.unattached (hshut : session.ShutDown) : session.attachment? event = none := by
  cases hattachment : session.attachment? event with
  | none => rfl
  | some attachment =>
      obtain ⟨outcome, timer, suffix, -, hactivity, -⟩ := attachment?_eq_some hattachment
      cases hshut.lasting _ _ hactivity

/-- What goes on after a shutdown does not watch the backend. -/
theorem ShutDown.unwatched_of_activity (hshut : session.ShutDown) {id now : Nat}
    {activity : Activity} (hactivity : session.activity? id = some activity)
    (hfor : event.IsFor id) : Unwatched (react now event session).2 := by
  have hlasting := hshut.lasting id activity hactivity
  by_cases hsync : ∃ stage, activity = .sync stage
  · obtain ⟨stage, rfl⟩ := hsync
    have hmove : SyncMove id session stage event (react now event session) := by
      rcases hfor with rfl | ⟨outcome, rfl⟩
      · simp only [react, withActivity, hactivity]
        exact wakeActivity_sync_move hshut.wellFormed.syncs hactivity now
      · simp only [react, withActivity, hactivity]
        exact outcomeActivity_sync_move now id outcome stage session
    have hframe := hmove.frame hshut.wellFormed.table hshut.wellFormed.syncs
      (syncStage?_eq_some_iff.mpr hactivity)
    intro caller made hmem hwatches
    have hwrites : made.WritesBreakpoints := (hframe.effects _ hmem).2
    cases made <;> first | exact hwatches | exact hwrites
  · have hnotsync : ∀ stage, activity ≠ .sync stage := fun stage heq => hsync ⟨stage, heq⟩
    rcases hfor with rfl | ⟨outcome, rfl⟩
    · simp only [react, withActivity, hactivity]
      exact unwatched_wakeActivity hlasting hnotsync now
    · simp only [react, withActivity, hactivity]
      exact unwatched_outcomeActivity hlasting hnotsync now outcome

theorem ShutDown.quietStep (hshut : session.ShutDown) (now : Nat) (event : SessionEvent) :
    QuietStep session now event := by
  have hfor : ∀ id, event.IsFor id → Unwatched (react now event session).2 := by
    intro id hfor
    cases hactivity : session.activity? id with
    | some activity => exact hshut.unwatched_of_activity hactivity hfor
    | none =>
        rcases hfor with rfl | ⟨outcome, rfl⟩
        · simp only [react, withActivity, hactivity]
          exact .nil
        · simp only [react, withActivity, hactivity]
          exact .nil
  cases event with
  | request request => exact quietStep_request hshut.wellFormed now request
  | shutdown => exact quietStep_shutdown hshut.wellFormed now
  | release => exact ⟨unwatched_step hshut.wellFormed .nil, rfl, eventsIn_step session now .release⟩
  | wake id =>
      exact ⟨unwatched_step hshut.wellFormed (hfor id (.inl rfl)), rfl,
        eventsIn_step session now (.wake id)⟩
  | outcome id outcome =>
      exact ⟨unwatched_step hshut.wellFormed (hfor id (.inr ⟨outcome, rfl⟩)), hshut.unattached,
        (eventsIn_step session now _).trans (hshut.events_outcome id outcome)⟩

end Steps

/-! ## What is left of a run -/

/-- From here on nothing is attached to, nothing watches the backend, and the editor hears of the
end of the debugging only. -/
structure QuietRun (events : List (Nat × SessionEvent)) (session : Session) : Prop where
  unwatched : ∀ id suffix, .call id (.info suffix) ∉ (run events session).2 ∧
    .call id (.runState suffix) ∉ (run events session).2
  unattached : attachments events session = []
  /-- No activity that attaches sends the command that follows an attach. -/
  unentered : entryCalls events session = []
  events : eventsIn (run events session).2 =
    List.replicate (events.countP fun entry => entry.2.endsDebugging) terminatedEvent

section Runs

variable {session : Session}

theorem QuietRun.nil (session : Session) : QuietRun [] session where
  unwatched _ _ := ⟨List.not_mem_nil, List.not_mem_nil⟩
  unattached := rfl
  unentered := rfl
  events := rfl

theorem QuietStep.cons {now : Nat} {event : SessionEvent} {later : List (Nat × SessionEvent)}
    (hstep : QuietStep session now event) (hwf : WellFormed session)
    (hlater : QuietRun later (step now event session).1) :
    QuietRun ((now, event) :: later) session where
  unwatched id suffix := by
    rw [run, Turn.andThen_snd, List.mem_append, List.mem_append, not_or, not_or]
    exact ⟨⟨fun hmem => hstep.unwatched id _ hmem trivial, (hlater.unwatched id suffix).1⟩,
      fun hmem => hstep.unwatched id _ hmem trivial, (hlater.unwatched id suffix).2⟩
  unattached := by
    have hrest : attachments later (step now event session).1 = [] := hlater.unattached
    rw [attachments, journal, hstep.unattached]
    exact hrest
  unentered := by
    have hrest : entryCalls later (step now event session).1 = [] := hlater.unentered
    rw [entryCalls, journal, entryCalls_step hwf, hstep.unattached]
    exact hrest
  events := by
    rw [run, Turn.andThen_snd, eventsIn_append, hstep.events, hlater.events, List.countP_cons]
    cases event.endsDebugging with
    | true => exact (List.replicate_succ ..).symm
    | false => rfl

/-- Induction over the events after a shutdown: each finds the session shut down. -/
theorem ShutDown.quietRun (hshut : session.ShutDown) (events : List (Nat × SessionEvent)) :
    QuietRun events session := by
  induction events generalizing session with
  | nil => exact .nil session
  | cons entry events ih =>
      exact (hshut.quietStep entry.1 entry.2).cons hshut.wellFormed
        (ih (hshut.step entry.1 entry.2))

/-- Wherever a shutdown finds a session, it is final: whatever happens afterwards, the session is
quiet from the event that shuts it down. -/
theorem shutdown_is_final (config : BackendConfig) (earlier : List (Nat × SessionEvent))
    (now : Nat) {ending : SessionEvent} (hends : ending.ShutsDown)
    (later : List (Nat × SessionEvent)) :
    QuietRun ((now, ending) :: later) (run earlier (ofConfig config)).1 := by
  have hwf := wellFormed_run (WellFormed.ofConfig config) earlier
  have hshut := ShutDown.of_shutsDown (retired_run config earlier) hwf hends now
  exact (quietStep_of_shutsDown hwf hends now).cons hwf (hshut.quietRun later)

/-- The editor disconnects while the reply that the resource has started is under way. -/
theorem shutdown_is_final_before_reply :
    (run (launchedRun.take 2) (ofConfig { contexts := .single })).1.attaches 0 = true ∧
    QuietRun ((1, .request { command := "disconnect" }) :: launchedRun.drop 2)
      (run (launchedRun.take 2) (ofConfig { contexts := .single })).1 := by
  refine ⟨by decide +kernel, ?_⟩
  exact shutdown_is_final { contexts := .single } (launchedRun.take 2) 1 (.inr rfl) _

end Runs

end Session

end DebugBridge
