import DebugBridge.Proofs.Session.Lifetimes

/-!
# Released sessions

The driver of a session may let go of it without a shutdown.  The session goes once nothing of it
is under way but its poller, which goes with it.  Whatever attaches keeps the session, however: what
asks for a context goes on asking until the backend reports a resource, and while the command that
follows is outstanding the poller goes on as well.
-/

namespace DebugBridge

/-- The connection broke off. -/
def brokenOff : Outcome := .error (.exchange "" true)

theorem Activity.attach_or_poll {activity : Activity} (hends : activity.endsAtShutdown = true) :
    (∃ thread stage, activity = .attach thread stage) ∨ ∃ stage, activity = .poll stage := by
  cases activity with
  | attach thread stage => exact .inl ⟨thread, stage, rfl⟩
  | poll stage => exact .inr ⟨stage, rfl⟩
  | sync stage => cases hends
  | resume request thread suffix mode stage => cases hends
  | evaluate request expression stage => cases hends
  | restart request resource stage => cases hends

namespace Session

/-! ## Sessions that nobody keeps -/

/-- Only the backend and the clock go on. -/
def Unattended (events : List (Nat × SessionEvent)) : Prop :=
  ∀ entry ∈ events, ∃ id, entry.2.IsFor id

section Deserted

variable {session : Session}

/-- A released session of which nothing but attaches and polls is left, and which attaches to
nothing, has nothing under way. -/
theorem deserted_run (config : BackendConfig) (events : List (Nat × SessionEvent))
    (hreleased : (run events (ofConfig config)).1.held = false)
    (hrest : ∀ id activity, (run events (ofConfig config)).1.activity? id = some activity →
      activity.endsAtShutdown = true)
    (hnothing : NothingAttaches (run events (ofConfig config)).1) :
    (run events (ofConfig config)).1.activities = [] := by
  have htable := (wellFormed_run (WellFormed.ofConfig config) events).table
  have hpolls : ∀ entry ∈ (run events (ofConfig config)).1.activities,
      ∃ stage, entry.2 = .poll stage := by
    rintro ⟨id, activity⟩ hentry
    have hactivity := htable.mem_activities_iff.mp hentry
    rcases Activity.attach_or_poll (hrest id activity hactivity) with ⟨thread, stage, rfl⟩ | hpoll
    · exact absurd rfl (hnothing id _ thread hactivity)
    · exact hpoll
  have hdead : (run events (ofConfig config)).1.isAlive = false := by
    rw [isAlive, hreleased, Bool.false_or, List.any_eq_false]
    intro entry hentry
    obtain ⟨stage, hpoll⟩ := hpolls entry hentry
    rw [hpoll]
    exact Bool.false_ne_true
  have hunpolled := (tidy_run config events).resolve_left (Bool.eq_false_iff.mp hdead)
  rw [hasPoller, List.any_eq_false] at hunpolled
  refine List.eq_nil_iff_forall_not_mem.mpr fun entry hentry => ?_
  obtain ⟨stage, hpoll⟩ := hpolls entry hentry
  exact hunpolled entry hentry (by rw [hpoll]; rfl)

/-- With nothing under way, whatever comes for an activity finds none. -/
theorem run_of_deserted (hempty : session.activities = [])
    {events : List (Nat × SessionEvent)} (hunattended : Unattended events) :
    run events session = (session, []) := by
  induction events with
  | nil => rfl
  | cons entry events ih =>
      obtain ⟨now, event⟩ := entry
      have hreact : react now event session = (session, []) := by
        obtain ⟨id, hfor⟩ : ∃ id, event.IsFor id := hunattended _ List.mem_cons_self
        have hnone : session.activity? id = none := by
          rw [activity?, hempty]
          rfl
        rcases hfor with rfl | ⟨outcome, rfl⟩
        · simp only [react, withActivity, hnone]
        · simp only [react, withActivity, hnone]
      have hreap : reap session = (session, []) :=
        Tidy.reap_eq (.inr (by rw [hasPoller, hempty]; rfl))
      have hstep : step now event session = (session, []) := by
        rw [step, Turn.andThen, hreact]
        simp [hreap]
      rw [run, Turn.andThen, hstep]
      simp [ih fun entry hentry => hunattended entry (List.mem_cons_of_mem _ hentry)]

end Deserted

/-! ## What asks for its context -/

section Asking

variable {id : Nat} {session : Session} {thread : Int}

/-- A tick that is due asks for the context. -/
theorem asks_attachTick {activity : Activity} (hactivity : session.activity? id = some activity)
    {context : ExecutionContext} (hget : session.contexts.get? thread = some context)
    (timer : Timer) (now : Nat) (hdue : timer.isDue now = true) :
    (∃ next, (attachTick id thread timer now session).1.activity? id =
        some (.attach thread (.asking next context.suffix))) ∧
      callsOf id (attachTick id thread timer now session).2 = [.info context.suffix] := by
  rw [attachTick, if_pos hdue, hget]
  refine ⟨⟨timer.advance now, ?_⟩, by simp [await, put, callsOf]⟩
  exact (activity?_put_of_some hactivity _ id).trans (if_pos rfl)

/-- Whatever asks for a context can ask again at any later time. -/
theorem asks_again (hwf : WellFormed session) {activity : Activity}
    (hactivity : session.activity? id = some activity) (hrole : activity.role = .attaching thread)
    {context : ExecutionContext} (hget : session.contexts.get? thread = some context)
    (moment : Nat) :
    ∃ now event, moment ≤ now ∧ event.IsFor id ∧
      callsOf id (step now event session).2 = [.info context.suffix] ∧
      ∃ timer, (step now event session).1.activity? id =
        some (.attach thread (.asking timer context.suffix)) := by
  -- What comes behind the reaction leaves an attach alone and calls nobody.
  suffices hreacts : ∃ now event, moment ≤ now ∧ event.IsFor id ∧
      callsOf id (react now event session).2 = [.info context.suffix] ∧
      ∃ timer, (react now event session).1.activity? id =
        some (.attach thread (.asking timer context.suffix)) by
    obtain ⟨now, event, hlate, hfor, hcalls, timer, hasking⟩ := hreacts
    refine ⟨now, event, hlate, hfor, (callsOf_step hwf id now event).trans hcalls, timer, ?_⟩
    exact activity?_step_of_react hwf hasking (role_ne_polling_of_attach rfl)
  cases activity with
  | attach other stage =>
      cases stage with
      | starting =>
          cases hrole
          obtain ⟨hasking, hcalls⟩ := asks_attachTick hactivity hget
            (.start session.config.launchRetryInterval session.config.launchRetryInterval_pos
              moment) moment (by simp [Timer.start, Timer.isDue])
          refine ⟨moment, .wake id, Nat.le_refl _, .inl rfl, ?_⟩
          simp only [react, withActivity, hactivity]
          exact ⟨hcalls, hasking⟩
      | waiting timer =>
          cases hrole
          obtain ⟨hasking, hcalls⟩ := asks_attachTick hactivity hget timer
            (max moment timer.deadline) (by simp [Timer.isDue])
          refine ⟨max moment timer.deadline, .wake id, Nat.le_max_left _ _, .inl rfl, ?_⟩
          simp only [react, withActivity, hactivity]
          exact ⟨hcalls, hasking⟩
      | asking timer suffix =>
          cases hrole
          obtain ⟨hasking, hcalls⟩ := asks_attachTick hactivity hget timer
            (max moment timer.deadline) (by simp [Timer.isDue])
          refine ⟨max moment timer.deadline, .outcome id brokenOff, Nat.le_max_left _ _,
            .inr ⟨_, rfl⟩, ?_⟩
          simp only [react, withActivity, hactivity]
          exact ⟨hcalls, hasking⟩
      | resuming name suffix mode => cases hrole
  | poll stage => cases hrole
  | sync stage => cases hrole
  | resume request other suffix mode stage => cases hrole
  | evaluate request expression stage => cases hrole
  | restart request resource stage => cases hrole

/-- As long as the connection breaks off each time, it goes on asking without end. -/
theorem asks_without_end (hwf : WellFormed session) {activity : Activity}
    (hactivity : session.activity? id = some activity) (hrole : activity.role = .attaching thread)
    {suffix : String} (hsuffix : (session.contexts.address? thread).map (·.suffix) = some suffix)
    (moment count : Nat) :
    ∃ later, later.Pairwise (fun entry next => entry.1 ≤ next.1) ∧
      (∀ entry ∈ later, moment ≤ entry.1 ∧ entry.2.IsFor id) ∧
      callsOf id (run later session).2 = List.replicate count (.info suffix) := by
  induction count generalizing session activity moment with
  | zero => exact ⟨[], .nil, by simp, rfl⟩
  | succ count ih =>
      obtain ⟨context, hget, rfl⟩ : ∃ context, session.contexts.get? thread = some context ∧
          context.suffix = suffix := by
        rw [Contexts.address?, Option.map_map, Option.map_eq_some_iff] at hsuffix
        exact hsuffix
      obtain ⟨now, event, hlate, hfor, hcalls, timer, hasking⟩ :=
        asks_again hwf hactivity hrole hget moment
      obtain ⟨later, hordered, hlater, hrest⟩ := ih (wellFormed_step hwf now event) hasking rfl
        ((address?_step hwf now event thread).symm ▸ hsuffix) now
      refine ⟨(now, event) :: later, ?_, ?_, ?_⟩
      · exact List.pairwise_cons.mpr ⟨fun entry hentry => (hlater entry hentry).1, hordered⟩
      · intro entry hentry
        rcases List.mem_cons.mp hentry with rfl | hentry
        · exact ⟨hlate, hfor⟩
        · exact ⟨Nat.le_trans hlate (hlater entry hentry).1, (hlater entry hentry).2⟩
      · rw [run, Turn.andThen_snd, callsOf_append, hcalls, hrest]
        rfl

end Asking

/-! ## The poller of what resumes -/

section Resuming

variable {config : BackendConfig} {events : List (Nat × SessionEvent)} {id : Nat} {thread : Int}
  {name suffix : String} {mode : ResumeMode}

/-- An event for another activity leaves the command after an attach outstanding. -/
theorem resuming_of_other
    (hactivity : (run events (ofConfig config)).1.activity? id =
      some (.attach thread (.resuming name suffix mode))) {other : Nat} (hother : other ≠ id)
    {event : SessionEvent} (hfor : event.IsFor other) (now : Nat) :
    (step now event (run events (ofConfig config)).1).1.activity? id =
      some (.attach thread (.resuming name suffix mode)) := by
  have hwf := wellFormed_run (WellFormed.ofConfig config) events
  have hbefore : (run events (ofConfig config)).1.isShutDown = false := by
    by_contra hshut
    have hends := retired_run config events (by simpa using hshut) id _ hactivity
    cases hends
  have hopen : (step now event (run events (ofConfig config)).1).1.isShutDown = false := by
    rw [step, Turn.andThen_fst, isShutDown_reap]
    rcases (reaction_react hwf now event).isShutDown hwf with hsame | ⟨hnone, -⟩
    · exact hsame.trans hbefore
    · exact absurd hfor (hnone other)
  have hevent : event.isOutcomeOf id = false := by
    rcases hfor with rfl | ⟨outcome, rfl⟩
    · rfl
    · exact beq_eq_false_iff_ne.mpr hother
  have hcommand := isCommand_step_of_other hwf
    (isCommand_eq_true_iff.mpr ⟨_, hactivity, rfl⟩) hevent hopen
  obtain ⟨after, hafter, -⟩ := isCommand_eq_true_iff.mp hcommand
  exact kept_of_resuming hwf hactivity hafter ▸ hafter

/-- What resumes has its context polled. -/
theorem plannedPolls_of_resuming
    (hactivity : (run events (ofConfig config)).1.activity? id =
      some (.attach thread (.resuming name suffix mode))) :
    (run events (ofConfig config)).1.contexts.plannedPolls ≠ [] := by
  have haddress := allAddressed_run config events id _ hactivity
  rw [Activity.Addressed, Contexts.address?, Option.map_map, Option.map_eq_some_iff] at haddress
  obtain ⟨context, hget, -⟩ := haddress
  exact plannedPolls_ne_nil_of_isCommand config events
    (isCommand_eq_true_iff.mpr ⟨_, hactivity, rfl⟩) hget

/-- While the command after an attach is outstanding, the poller can ask again at any later time. -/
theorem polls_again (hactivity : (run events (ofConfig config)).1.activity? id =
      some (.attach thread (.resuming name suffix mode))) (moment : Nat) :
    ∃ now poller event asked, moment ≤ now ∧ event.IsFor poller ∧
      .call poller (.runState asked) ∈ (step now event (run events (ofConfig config)).1).2 := by
  have hwf := wellFormed_run (WellFormed.ofConfig config) events
  obtain ⟨poller, stage, hpoll⟩ := attended_run config events id thread name suffix mode hactivity
  have hother : poller ≠ id := by
    rintro rfl
    cases hactivity.symm.trans hpoll
  -- The first question of a tick is about a context that runs, and there is one.
  have hticks : ∀ now event, event.IsFor poller →
      (run events (ofConfig config)).1.beginsTick now poller event = true →
      ∃ asked, .call poller (.runState asked) ∈
        (step now event (run events (ofConfig config)).1).2 := by
    intro now event hfor hbegins
    have hcalls := (asks_of_beginsTick hwf hbegins).1
    have hplanned := @plannedPolls_of_resuming config (events ++ [(now, event)]) id thread name
      suffix mode
    rw [run_snoc] at hplanned
    obtain ⟨target, others, hfirst⟩ :=
      List.exists_cons_of_ne_nil (hplanned (resuming_of_other hactivity hother hfor now))
    rw [hfirst] at hcalls
    exact ⟨target.suffix, mem_callsOf.mp (by rw [hcalls]; exact List.mem_singleton_self _)⟩
  cases stage with
  | starting =>
      obtain ⟨asked, hcall⟩ := hticks moment (.wake poller) (.inl rfl)
        (by simp [beginsTick, hpoll])
      exact ⟨moment, poller, .wake poller, asked, Nat.le_refl _, .inl rfl, hcall⟩
  | waiting timer =>
      obtain ⟨asked, hcall⟩ := hticks (max moment timer.deadline) (.wake poller) (.inl rfl)
        (by simp [beginsTick, hpoll, Timer.isDue])
      exact ⟨_, poller, .wake poller, asked, Nat.le_max_left _ _, .inl rfl, hcall⟩
  | asking timer target others =>
      cases others with
      | nil =>
          obtain ⟨asked, hcall⟩ := hticks (max moment timer.deadline)
            (.outcome poller brokenOff) (.inr ⟨_, rfl⟩) (by simp [beginsTick, hpoll, Timer.isDue])
          exact ⟨_, poller, _, asked, Nat.le_max_left _ _, .inr ⟨_, rfl⟩, hcall⟩
      | cons next rest =>
          have hkept := resuming_of_other hactivity hother (.inr ⟨brokenOff, rfl⟩) moment
          have hpresent : ((step moment (.outcome poller brokenOff)
              (run events (ofConfig config)).1).1.activity? poller).isSome = true := by
            rcases polls_step hwf hpoll moment (.outcome poller brokenOff) with
              ⟨stage, hstage⟩ | hnothing
            · exact Option.isSome_of_eq_some hstage
            · exact absurd rfl (hnothing id _ thread hkept)
          have hcalls := (Asks.step_outcome ⟨timer, hpoll⟩ hwf moment brokenOff hpresent).2
            (List.cons_ne_nil next rest)
          exact ⟨moment, poller, _, next.suffix, Nat.le_refl _, .inr ⟨_, rfl⟩,
            mem_callsOf.mp (by rw [hcalls]; exact List.mem_singleton_self _)⟩

end Resuming

/-! ## Sessions whose driver has let go -/

section Released

variable {config : BackendConfig} {events : List (Nat × SessionEvent)}

/-- Whatever attaches can have the backend watched again at any later time. -/
theorem watches_again {id : Nat} {thread : Int} {stage : AttachStage}
    (hactivity : (run events (ofConfig config)).1.activity? id = some (.attach thread stage))
    (moment : Nat) :
    ∃ now event other, moment ≤ now ∧ event.IsFor other ∧
      ¬ Unwatched (step now event (run events (ofConfig config)).1).2 := by
  have hwf := wellFormed_run (WellFormed.ofConfig config) events
  have hasks : (Activity.attach thread stage).role = .attaching thread →
      ∃ now event other, moment ≤ now ∧ event.IsFor other ∧
        ¬ Unwatched (step now event (run events (ofConfig config)).1).2 := by
    intro hrole
    obtain ⟨context, hget⟩ :=
      Contexts.exists_get?_of_mem_threads (hwf.known id _ thread hactivity hrole)
    obtain ⟨now, event, hlate, hfor, hcalls, -⟩ := asks_again hwf hactivity hrole hget moment
    refine ⟨now, event, id, hlate, hfor, fun hunwatched => hunwatched id (.info context.suffix) ?_
      trivial⟩
    exact mem_callsOf.mp (by rw [hcalls]; exact List.mem_singleton_self _)
  cases stage with
  | starting => exact hasks rfl
  | waiting timer => exact hasks rfl
  | asking timer suffix => exact hasks rfl
  | resuming name suffix mode =>
      obtain ⟨now, poller, event, asked, hlate, hfor, hcall⟩ := polls_again hactivity moment
      exact ⟨now, event, poller, hlate, hfor, fun hunwatched => hunwatched _ _ hcall trivial⟩

end Released

/-- Once the driver of a session has let go of it and nothing is under way but what attaches and
polls, the session does nothing any more exactly if nothing attaches.  As long as something does,
the backend goes on being watched; what still asks for its context can ask any number of times. -/
theorem released_session_rests_iff (config : BackendConfig) (events : List (Nat × SessionEvent))
    (hreleased : (run events (ofConfig config)).1.held = false)
    (hrest : ∀ id activity, (run events (ofConfig config)).1.activity? id = some activity →
      activity.endsAtShutdown = true) :
    (NothingAttaches (run events (ofConfig config)).1 ↔ ∀ later, Unattended later →
      Unwatched (run later (run events (ofConfig config)).1).2 ∧
        eventsIn (run later (run events (ofConfig config)).1).2 = []) ∧
    (NothingAttaches (run events (ofConfig config)).1 → ∀ later, Unattended later →
      (run later (run events (ofConfig config)).1).2 = []) ∧
    ∀ id activity thread, (run events (ofConfig config)).1.activity? id = some activity →
      activity.role = .attaching thread → ∃ suffix, ∀ moment count, ∃ later,
        later.Pairwise (fun entry next => entry.1 ≤ next.1) ∧
        (∀ entry ∈ later, moment ≤ entry.1 ∧ entry.2.IsFor id) ∧
        callsOf id (run later (run events (ofConfig config)).1).2 =
          List.replicate count (.info suffix) := by
  have hrests : NothingAttaches (run events (ofConfig config)).1 → ∀ later, Unattended later →
      (run later (run events (ofConfig config)).1).2 = [] := by
    intro hnothing later hunattended
    rw [run_of_deserted (deserted_run config events hreleased hrest hnothing) hunattended]
  refine ⟨⟨?_, ?_⟩, hrests, ?_⟩
  · intro hnothing later hunattended
    rw [hrests hnothing later hunattended]
    exact ⟨.nil, rfl⟩
  · intro hquiet id activity thread hactivity hduty
    obtain ⟨stage, rfl⟩ := Activity.attach_of_duty hduty
    obtain ⟨now, event, other, -, hfor, hwatched⟩ := watches_again hactivity 0
    have hstep := (hquiet [(now, event)] fun entry hentry =>
      ⟨other, List.mem_singleton.mp hentry ▸ hfor⟩).1
    rw [run, Turn.andThen_snd] at hstep
    exact hwatched fun caller made hmem => hstep caller made (List.mem_append_left _ hmem)
  · intro id activity thread hactivity hrole
    have hwf := wellFormed_run (WellFormed.ofConfig config) events
    obtain ⟨context, hget⟩ :=
      Contexts.exists_get?_of_mem_threads (hwf.known id activity thread hactivity hrole)
    refine ⟨context.suffix, fun moment count =>
      asks_without_end hwf hactivity hrole ?_ moment count⟩
    rw [Contexts.address?_of_get? hget]
    rfl

/-- A launch that waits for its resource outlives the driver of its session. -/
theorem released_session_rests_iff_waiting :
    (run [(0, .request plainLaunch), (0, .release)]
        (ofConfig { contexts := .single })).1.held = false ∧
      ∃ suffix, ∀ moment count, ∃ later, (∀ entry ∈ later, moment ≤ entry.1 ∧ entry.2.IsFor 0) ∧
        callsOf 0 (run later (run [(0, .request plainLaunch), (0, .release)]
          (ofConfig { contexts := .single })).1).2 = List.replicate count (.info suffix) := by
  have hreleased : (run [(0, .request plainLaunch), (0, .release)]
      (ofConfig { contexts := .single })).1.held = false := by
    decide +kernel
  have hends : ((run [(0, .request plainLaunch), (0, .release)]
      (ofConfig { contexts := .single })).1.activities.all fun entry =>
        entry.2.endsAtShutdown) = true := by
    decide +kernel
  have hroles : ((run [(0, .request plainLaunch), (0, .release)]
      (ofConfig { contexts := .single })).1.activity? 0).map Activity.role =
        some (.attaching serverThread) := by
    decide +kernel
  obtain ⟨activity, hactivity, hrole⟩ := Option.map_eq_some_iff.mp hroles
  have htable := (wellFormed_run (WellFormed.ofConfig { contexts := .single })
    [(0, .request plainLaunch), (0, .release)]).table
  obtain ⟨suffix, hasks⟩ := (released_session_rests_iff { contexts := .single }
    [(0, .request plainLaunch), (0, .release)] hreleased fun id activity hactivity =>
      List.all_eq_true.mp hends _ (htable.mem_activities_iff.mpr hactivity)).2.2
    0 activity serverThread hactivity hrole
  refine ⟨hreleased, suffix, fun moment count => ?_⟩
  obtain ⟨later, -, hlater, hcalls⟩ := hasks moment count
  exact ⟨later, hlater, hcalls⟩

end Session

end DebugBridge
