import DebugBridge.Proofs.Session.Runs

/-!
# Events for others

What an event for someone else leaves of an activity: its stage, unless a shutdown ends it, and no
call is made for it.  Ended activities never come back, and only the reply to a poll reports a
stop.
-/

namespace DebugBridge

/-- The event is the outcome of a call of this activity. -/
def SessionEvent.isOutcomeOf (id : Nat) : SessionEvent → Bool
  | .outcome other _ => other == id
  | _ => false

namespace Session

/-- How many outcomes for an activity there are. -/
def outcomesFor (id : Nat) (events : List (Nat × SessionEvent)) : Nat :=
  events.countP fun entry => entry.2.isOutcomeOf id

/-- The activity is as it was, or is gone, and calls nobody. -/
structure Undisturbed (id : Nat) (session : Session) (out : Session × List Effect) : Prop where
  activity? : out.1.activity? id = session.activity? id ∨ out.1.activity? id = none
  calls : callsOf id out.2 = []

/-- What the poller learns at an event: the state of the context that it asked about. -/
def polledState? (session : Session) : SessionEvent → Option (PlannedPoll × RunState)
  | .outcome id outcome =>
    match session.activity? id with
    | some (.poll (.asking _ target _)) =>
      match BackendClient.runState target.suffix outcome with
      | .ok state => some (target, state)
      | .error _ => none
    | _ => none
  | _ => none

/-- The turn takes up a state that tells of a pause: the context shows it from now on, and a stop
of its thread is reported. -/
structure Pauses (session : Session) (event : SessionEvent) (out : Session × List Effect)
    (target : PlannedPoll) (state : RunState) : Prop where
  polled : session.polledState? event = some (target, state)
  accepted : (session.contexts.applyPoll target state).1 = true
  contexts : out.1.contexts.contexts = (session.contexts.applyPoll target state).2.contexts
  stops : ∀ thread, stopsOf thread out.2 = if thread = target.thread then 1 else 0

section Undisturbed

variable {id : Nat} {session : Session} {event : SessionEvent} {out : Session × List Effect}

theorem Undisturbed.of_silent (hsilent : Silent session out) : Undisturbed id session out where
  activity? := .inl (hsilent.activity? id)
  calls := callsOf_eq_nil_of_within hsilent.effects fun _ hcall => hcall

theorem Undisturbed.of_spawns {fresh : List Activity} (hspawns : Spawns fresh session out)
    (htable : TableOk session) (hbelow : id < session.nextActivity) :
    Undisturbed id session out where
  activity? := by
    left
    rw [hspawns.activity? htable, if_pos hbelow]
  calls := callsOf_eq_nil_of_within hspawns.effects fun _ hcall => hcall

theorem Undisturbed.of_local {other : Nat} {allowed : BackendCall → Prop}
    {mine : Activity → Prop} (hlocal : Local other allowed mine session out) (hother : id ≠ other) :
    Undisturbed id session out where
  activity? := .inl (hlocal.others id hother)
  calls := callsOf_eq_nil_of_within hlocal.effects fun _ hcall => hother hcall.1

theorem Undisturbed.andThen {middle : Session} {effects : List Effect}
    (hfirst : Undisturbed id session (middle, effects)) (hsecond : Undisturbed id middle out) :
    Undisturbed id session (out.1, effects ++ out.2) where
  activity? := by
    rcases hsecond.activity? with hsame | hgone
    · rw [hsame]
      exact hfirst.activity?
    · exact .inr hgone
  calls := by rw [callsOf_append, hfirst.calls, hsecond.calls, List.append_nil]

/-- An event for someone else leaves an activity alone that is no sync. -/
theorem Reaction.undisturbed (hreaction : Reaction session event out) (hwf : WellFormed session)
    (hbelow : id < session.nextActivity) (hsyncing : session.syncStage? id = none)
    (hother : event.IsFor id → session.activity? id = none) : Undisturbed id session out := by
  -- An activity that the event is for and that is there is another one.
  have hne : ∀ {mover : Nat} {activity : Activity}, event.IsFor mover →
      session.activity? mover = some activity → id ≠ mover := by
    rintro mover activity hfor hactivity rfl
    rw [hother hfor] at hactivity
    cases hactivity
  cases hreaction with
  | answered hplain hsilent => exact .of_silent hsilent
  | recounted hcommand hsilent =>
      have hrest := @Undisturbed.of_silent id _ _ hsilent
      exact ⟨hrest.activity?, hrest.calls⟩
  | started hplain hfresh hspawns => exact .of_spawns hspawns hwf.table hbelow
  | breakpointsSet hcommand haccepted hspawns =>
      have hrest := @Undisturbed.of_spawns id _ _ _ hspawns (hwf.table.congr rfl rfl) hbelow
      exact ⟨hrest.activity?, hrest.calls⟩
  | commandStarted hsets hbegun hget hspawns =>
      have hrest := @Undisturbed.of_spawns id _ _ _ hspawns (hwf.table.congr rfl rfl) hbelow
      exact ⟨hrest.activity?, hrest.calls⟩
  | shutDown hevent hplain hsilent =>
      have hflag : TableOk { session with isShutDown := true } := hwf.table.congr rfl rfl
      have hcancelled : Undisturbed id session (shutdown session) := by
        constructor
        · have hlookup : (shutdown session).1.activity? id =
              (session.activity? id).filter fun activity => !activity.endsAtShutdown :=
            activity?_cancel hflag Activity.endsAtShutdown id
          rw [hlookup]
          cases hactivity : session.activity? id with
          | none => exact .inr rfl
          | some activity =>
              cases hends : activity.endsAtShutdown with
              | true => exact .inr (by simp [hends])
              | false => exact .inl (by simp [hends])
        · exact callsOf_eq_nil_of_within (within_cancel _ { session with isShutDown := true })
            fun _ hcall => hcall
      exact hcancelled.andThen (.of_silent hsilent)
  | released => exact ⟨.inl rfl, rfl⟩
  | absent hfor hnone => exact ⟨.inl rfl, rfl⟩
  | moved hfor hactivity hpolling hsyncing hplain hlocal hpresent =>
      exact .of_local hlocal (hne hfor hactivity)
  | @attached mover outcome thread context timer suffix mode paths prelude rest hactivity hbegun
      hpaths hprelude hget hlocal hpresent =>
      have hbefore := @Undisturbed.of_spawns id _ _ _ hprelude (hwf.table.congr rfl rfl) hbelow
      have hafter := @Undisturbed.of_local id _ _ _ _ _ hlocal
        (hne (.inr ⟨outcome, rfl⟩) hactivity)
      have hfirst : Undisturbed id session prelude := ⟨hbefore.activity?, hbefore.calls⟩
      have hsecond : Undisturbed id prelude.1 rest := ⟨hafter.activity?, hafter.calls⟩
      exact hfirst.andThen hsecond
  | @commandEnded mover event thread out hended hlocal =>
      obtain ⟨outcome, activity, rfl, hactivity, hrole⟩ := endedCommand?_eq_some hended
      have hrest := @Undisturbed.of_local id _ _ _ _ _ hlocal
        (hne (.inr ⟨outcome, rfl⟩) hactivity)
      exact ⟨hrest.activity?, hrest.calls⟩
  | ticked hfor hactivity hlocal => exact .of_local hlocal (hne hfor hactivity)
  | @paused mover outcome timer target others state report rest hactivity hreply haccepted hreport
      hlocal =>
      have hfirst : Undisturbed id session report :=
        ⟨.inl (activity?_congr hreport.activities id), callsOf_eq_nil (hreport.calls id)⟩
      exact hfirst.andThen (.of_local hlocal (hne (.inr ⟨outcome, rfl⟩) hactivity))
  | synced hfor hstage hmove =>
      have hframe := hmove.frame hwf.table hwf.syncs hstage
      have hmover := hne hfor (syncStage?_eq_some_iff.mp hstage)
      exact ⟨.inl (hframe.others id hsyncing),
        callsOf_eq_nil_of_within hframe.effects fun _ hcall => hmover hcall.1⟩

theorem Reaction.nextActivity_le (hreaction : Reaction session event out)
    (hwf : WellFormed session) : session.nextActivity ≤ out.1.nextActivity := by
  cases hreaction with
  | answered hplain hsilent => exact Nat.le_of_eq hsilent.nextActivity.symm
  | recounted hcommand hsilent => exact Nat.le_of_eq hsilent.nextActivity.symm
  | started hplain hfresh hspawns =>
      rw [hspawns.nextActivity]
      exact Nat.le_add_right _ _
  | breakpointsSet hcommand haccepted hspawns =>
      rw [hspawns.nextActivity]
      exact Nat.le_add_right _ _
  | commandStarted hsets hbegun hget hspawns =>
      rw [hspawns.nextActivity]
      exact Nat.le_add_right _ _
  | shutDown hevent hplain hsilent => exact Nat.le_of_eq hsilent.nextActivity.symm
  | released => exact Nat.le_refl _
  | absent hfor hnone => exact Nat.le_refl _
  | moved hfor hactivity hpolling hsyncing hplain hlocal hpresent =>
      exact Nat.le_of_eq hlocal.nextActivity.symm
  | attached hactivity hbegun hpaths hprelude hget hlocal hpresent =>
      refine Nat.le_trans ?_ (Nat.le_of_eq hlocal.nextActivity.symm)
      rw [hprelude.nextActivity]
      exact Nat.le_add_right _ _
  | commandEnded hended hlocal => exact Nat.le_of_eq hlocal.nextActivity.symm
  | ticked hfor hactivity hlocal => exact Nat.le_of_eq hlocal.nextActivity.symm
  | paused hactivity hreply haccepted hreport hlocal =>
      exact Nat.le_of_eq (hlocal.nextActivity.trans hreport.nextActivity).symm
  | synced hfor hstage hmove =>
      exact Nat.le_of_eq (hmove.frame hwf.table hwf.syncs hstage).nextActivity.symm

/-- Only an answer to the poller tells it a state. -/
theorem polledState?_eq_some {target : PlannedPoll} {state : RunState}
    (hpolled : session.polledState? event = some (target, state)) :
    ∃ id outcome timer others, event = .outcome id outcome ∧
      session.activity? id = some (.poll (.asking timer target others)) ∧
      BackendClient.runState target.suffix outcome = .ok state := by
  cases event with
  | outcome id outcome =>
      simp only [polledState?] at hpolled
      split at hpolled
      · next timer asked others hactivity =>
          split at hpolled
          · next reported hreply =>
              cases hpolled
              exact ⟨id, outcome, timer, others, rfl, hactivity, hreply⟩
          · cases hpolled
      · cases hpolled
  | request request => cases hpolled
  | shutdown => cases hpolled
  | release => cases hpolled
  | wake id => cases hpolled

/-- Only the reply to a poll reports a stop, and only of the thread that was asked about. -/
theorem Reaction.pauses_of_stop (hreaction : Reaction session event out) (hwf : WellFormed session)
    {thread : Int} (hstop : stopsOf thread out.2 ≠ 0) :
    ∃ target state, Pauses session event out target state ∧ target.thread = thread := by
  have hquiet : ∀ {effects : List Effect} {allowed : Nat → BackendCall → Prop},
      (∀ effect ∈ effects, effect.Within allowed) → stopsOf thread effects = 0 :=
    fun hwithin => stopsOf_eq_zero hwithin thread
  cases hreaction with
  | answered hplain hsilent => exact absurd (hquiet hsilent.effects) hstop
  | recounted hcommand hsilent => exact absurd (hquiet hsilent.effects) hstop
  | started hplain hfresh hspawns => exact absurd (hquiet hspawns.effects) hstop
  | breakpointsSet hcommand haccepted hspawns => exact absurd (hquiet hspawns.effects) hstop
  | commandStarted hsets hbegun hget hspawns => exact absurd (hquiet hspawns.effects) hstop
  | shutDown hevent hplain hsilent =>
      have hforgets : ∀ effect ∈ (shutdown session).2, effect.Within noCall :=
        within_cancel Activity.endsAtShutdown { session with isShutDown := true }
      exact absurd (hquiet (List.forall_mem_append.mpr ⟨hforgets, hsilent.effects⟩)) hstop
  | released => exact absurd rfl hstop
  | absent hfor hnone => exact absurd rfl hstop
  | moved hfor hactivity hpolling hsyncing hplain hlocal hpresent =>
      exact absurd (hquiet hlocal.effects) hstop
  | attached hactivity hbegun hpaths hprelude hget hlocal hpresent =>
      rw [stopsOf_append, hquiet hprelude.effects, hquiet hlocal.effects] at hstop
      exact absurd rfl hstop
  | commandEnded hended hlocal => exact absurd (hquiet hlocal.effects) hstop
  | ticked hfor hactivity hlocal => exact absurd (hquiet hlocal.effects) hstop
  | @paused poller outcome timer target others state report rest hactivity hreply haccepted hreport
      hlocal =>
      have hstops : ∀ other, stopsOf other (report.2 ++ rest.2) =
          if other = target.thread then 1 else 0 := by
        intro other
        rw [stopsOf_append, hreport.stops, stopsOf_eq_zero hlocal.effects, Nat.add_zero]
      refine ⟨target, state, ⟨?_, haccepted, ?_, hstops⟩, ?_⟩
      · simp only [polledState?, hactivity, hreply]
      · have hlast : rest.1.contexts.contexts = report.1.contexts.contexts :=
          congrArg Backdrop.contexts hlocal.backdrop
        exact hlast.trans (congrArg Backdrop.contexts hreport.backdrop)
      · by_contra hthread
        have hnone := hstops thread
        rw [if_neg (Ne.symm hthread)] at hnone
        exact hstop hnone
  | synced hfor hstage hmove =>
      exact absurd (hquiet (hmove.frame hwf.table hwf.syncs hstage).effects) hstop

/-- A request by itself calls nobody. -/
theorem Reaction.callsOf_request {out : Session × List Effect}
    (hreaction : Reaction session (.request request) out) (id : Nat) : callsOf id out.2 = [] := by
  have hquiet : ∀ {effects : List Effect}, (∀ effect ∈ effects, effect.Within noCall) →
      callsOf id effects = [] :=
    fun hwithin => callsOf_eq_nil_of_within hwithin fun _ hcall => hcall
  cases hreaction with
  | answered hplain hsilent => exact hquiet hsilent.effects
  | recounted hcommand hsilent => exact hquiet hsilent.effects
  | started hplain hfresh hspawns => exact hquiet hspawns.effects
  | breakpointsSet hcommand haccepted hspawns => exact hquiet hspawns.effects
  | commandStarted hsets hbegun hget hspawns => exact hquiet hspawns.effects
  | shutDown hevent hplain hsilent =>
      rw [callsOf_append, hquiet hsilent.effects, List.append_nil]
      exact hquiet (within_cancel _ { session with isShutDown := true })
  | absent hfor hnone => rcases hfor with hwake | ⟨_, houtcome⟩ <;> contradiction
  | moved hfor hactivity hpolling hsyncing hplain hlocal hpresent =>
      rcases hfor with hwake | ⟨_, houtcome⟩ <;> contradiction
  | commandEnded hended hlocal => cases hended
  | ticked hfor hactivity hlocal => rcases hfor with hwake | ⟨_, houtcome⟩ <;> contradiction
  | synced hfor hstage hmove => rcases hfor with hwake | ⟨_, houtcome⟩ <;> contradiction

end Undisturbed

/-! ## Steps and runs -/

section Steps

variable {id : Nat} {session : Session} {event : SessionEvent}

/-- At the end of a step an activity is as the reaction left it, or is the abandoned poller. -/
theorem undisturbed_reap (htable : TableOk session) (id : Nat) :
    Undisturbed id session (reap session) where
  activity? := by
    rcases (reaped_reap htable).activity? id with hsame | ⟨hgone, -⟩
    · exact .inl hsame
    · exact .inr hgone
  calls := callsOf_eq_nil_of_within (reaped_reap htable).effects fun _ hcall => hcall

theorem callsOf_step (hwf : WellFormed session) (id now : Nat) (event : SessionEvent) :
    callsOf id (step now event session).2 = callsOf id (react now event session).2 := by
  have htable := ((reaction_react hwf now event).wellFormed hwf).table
  rw [step, Turn.andThen_snd, callsOf_append, (undisturbed_reap htable id).calls,
    List.append_nil]

theorem undisturbed_step (hwf : WellFormed session) (hbelow : id < session.nextActivity)
    (hsyncing : session.syncStage? id = none)
    (hother : event.IsFor id → session.activity? id = none) (now : Nat) :
    Undisturbed id session (step now event session) := by
  have hreaction := reaction_react hwf now event
  exact (hreaction.undisturbed hwf hbelow hsyncing hother).andThen
    (undisturbed_reap (hreaction.wellFormed hwf).table id)

theorem nextActivity_le_step (hwf : WellFormed session) (now : Nat) (event : SessionEvent) :
    session.nextActivity ≤ (step now event session).1.nextActivity := by
  have hreaction := reaction_react hwf now event
  have hreaped := reaped_reap (hreaction.wellFormed hwf).table
  exact Nat.le_trans (hreaction.nextActivity_le hwf) (Nat.le_of_eq hreaped.nextActivity.symm)

theorem pauses_of_stop_step (hwf : WellFormed session) {now : Nat} {thread : Int}
    (hstop : stopsOf thread (step now event session).2 ≠ 0) :
    ∃ target state, Pauses session event (step now event session) target state ∧
      target.thread = thread := by
  have hreaction := reaction_react hwf now event
  have hreaped := reaped_reap (hreaction.wellFormed hwf).table
  have hsame : ∀ other, stopsOf other (step now event session).2 =
      stopsOf other (react now event session).2 := by
    intro other
    rw [step, Turn.andThen_snd, stopsOf_append, stopsOf_eq_zero hreaped.effects, Nat.add_zero]
  rw [hsame] at hstop
  obtain ⟨target, state, hpauses, hthread⟩ := hreaction.pauses_of_stop hwf hstop
  have hcontexts : (step now event session).1.contexts.contexts =
      (react now event session).1.contexts.contexts := congrArg Backdrop.contexts hreaped.backdrop
  exact ⟨target, state, ⟨hpauses.polled, hpauses.accepted, hcontexts.trans hpauses.contexts,
    fun other => (hsame other).trans (hpauses.stops other)⟩, hthread⟩

/-- Numbers are never given twice, so that what is gone stays gone. -/
theorem absent_run (hwf : WellFormed session) (hbelow : id < session.nextActivity)
    (hgone : session.activity? id = none) (events : List (Nat × SessionEvent)) :
    (run events session).1.activity? id = none := by
  induction events generalizing session with
  | nil => exact hgone
  | cons event events ih =>
      have hsyncing : session.syncStage? id = none := by rw [syncStage?, hgone]
      have hundisturbed := @undisturbed_step id session event.2 hwf hbelow hsyncing
        (fun _ => hgone) event.1
      have hstill : (step event.1 event.2 session).1.activity? id = none := by
        rcases hundisturbed.activity? with hsame | hnone
        · exact hsame.trans hgone
        · exact hnone
      exact ih (wellFormed_step hwf event.1 event.2)
        (Nat.lt_of_lt_of_le hbelow (nextActivity_le_step hwf event.1 event.2)) hstill

theorem nextActivity_le_run (hwf : WellFormed session) (events : List (Nat × SessionEvent)) :
    session.nextActivity ≤ (run events session).1.nextActivity := by
  induction events generalizing session with
  | nil => exact Nat.le_refl _
  | cons event events ih =>
      exact Nat.le_trans (nextActivity_le_step hwf event.1 event.2)
        (ih (wellFormed_step hwf event.1 event.2))

/-- What is there at the end of a run was there at its beginning, unless it is new. -/
theorem present_of_run (hwf : WellFormed session) (hbelow : id < session.nextActivity)
    {events : List (Nat × SessionEvent)}
    (hpresent : ((run events session).1.activity? id).isSome) :
    (session.activity? id).isSome := by
  by_contra hgone
  rw [Option.not_isSome_iff_eq_none] at hgone
  rw [absent_run hwf hbelow hgone] at hpresent
  cases hpresent

end Steps

end Session

end DebugBridge
