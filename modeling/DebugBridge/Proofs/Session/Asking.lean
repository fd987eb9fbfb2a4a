import DebugBridge.Proofs.Session.Pollers

/-!
# What the poller asks about

A question names the epoch that its context had when the tick began.  Epochs never fall, and while
the epoch of a context stays, so do its commands in flight.
-/

namespace DebugBridge

/-- How a context goes on: its epoch never falls, and while it stays, the same is in flight. -/
structure ExecutionContext.GoesOn (before after : ExecutionContext) : Prop where
  epoch : before.epoch ≤ after.epoch
  inFlight : after.epoch = before.epoch → after.inFlight = before.inFlight

theorem ExecutionContext.GoesOn.trans {first second third : ExecutionContext}
    (hfirst : first.GoesOn second) (hsecond : second.GoesOn third) : first.GoesOn third where
  epoch := Nat.le_trans hfirst.epoch hsecond.epoch
  inFlight hsame := by
    have hmiddle := hfirst.epoch
    have hlast := hsecond.epoch
    rw [hsecond.inFlight (by omega), hfirst.inFlight (by omega)]

namespace Session

section Contexts

variable {thread : Int} {session : Session} {context : ExecutionContext}

theorem CommandMove.goesOn {after : Session} {new : List Milestone}
    (hmove : CommandMove thread session after new)
    (hget : session.contexts.get? thread = some context) :
    ∃ last, after.contexts.get? thread = some last ∧ context.GoesOn last := by
  cases hmove with
  | quiet hafter hcommands => exact ⟨context, hafter.trans hget, Nat.le_refl _, fun _ => rfl⟩
  | began hbefore hafter hcommands hnew hlive =>
      rw [hget, Option.some.injEq] at hbefore
      subst hbefore
      exact ⟨_, hafter, Nat.le_succ _, fun hsame => absurd hsame (Nat.succ_ne_self _)⟩
  | completed hlive hafter hcommands hgone =>
      rw [hget] at hafter
      exact ⟨_, hafter, Nat.le_succ _, fun hsame => absurd hsame (Nat.succ_ne_self _)⟩
  | stopped hbefore hrunning hidle hafter hcommands =>
      rw [hget, Option.some.injEq] at hbefore
      subst hbefore
      exact ⟨_, hafter, Nat.le_refl _, fun _ => rfl⟩

theorem goesOn_run (hwf : WellFormed session) (events : List (Nat × SessionEvent))
    (hget : session.contexts.get? thread = some context) :
    ∃ last, (run events session).1.contexts.get? thread = some last ∧ context.GoesOn last := by
  induction events generalizing session context with
  | nil => exact ⟨context, hget, Nat.le_refl _, fun _ => rfl⟩
  | cons event events ih =>
      obtain ⟨next, hnext, hfirst⟩ := (commandMove_step hwf event.1 event.2).goesOn hget
      obtain ⟨last, hlast, hrest⟩ := ih (wellFormed_step hwf event.1 event.2) hnext
      exact ⟨last, hlast, hfirst.trans hrest⟩

end Contexts

/-! ## Questions -/

/-- How the poller comes to ask about these contexts in a step: it asked about them before, or goes
on to the next one, or begins a tick. -/
inductive Questions (session : Session) (id : Nat) (event : SessionEvent)
    (out : Session × List Effect) (timer : Timer) (target : PlannedPoll)
    (others : List PlannedPoll) : Prop
  | kept (hasked : session.activity? id = some (.poll (.asking timer target others)))
      (hevent : event.isOutcomeOf id = false) (hcalls : callsOf id out.2 = [])
  | next {before : Timer} {first : PlannedPoll}
      (hasked : session.activity? id = some (.poll (.asking before first (target :: others))))
      (hcalls : callsOf id out.2 = [.runState target.suffix])
  | planned (hplanned : out.1.contexts.plannedPolls = target :: others)
      (hcalls : callsOf id out.2 = [.runState target.suffix])

section Steps

variable {id now : Nat} {session : Session} {event : SessionEvent} {timer : Timer}
variable {target : PlannedPoll} {others : List PlannedPoll}

theorem eq_outcome_of_isOutcomeOf (hmine : event.isOutcomeOf id = true) :
    ∃ outcome, event = .outcome id outcome := by
  cases event with
  | outcome other outcome => exact ⟨outcome, by rw [beq_iff_eq.mp hmine]⟩
  | request request => cases hmine
  | shutdown => cases hmine
  | release => cases hmine
  | wake other => cases hmine

theorem found_of_put {activity found : Activity}
    (hafter : (put id activity session).1.activity? id = some found) : found = activity := by
  have hleaves : Leaves id (· = activity) (put id activity session).1 := leaves_put session rfl
  exact hleaves found hafter

/-- A poller that asks after a tick was due asks about the contexts that run. -/
theorem planned_of_pollTick {due : Timer}
    (hafter : (pollTick id due now session).1.activity? id =
      some (.poll (.asking timer target others))) :
    (pollTick id due now session).1.contexts.plannedPolls = target :: others ∧
      callsOf id (pollTick id due now session).2 = [.runState target.suffix] := by
  by_cases hdue : due.isDue now = true
  · cases hplanned : session.contexts.plannedPolls with
    | nil =>
        have hturn : pollTick id due now session = sleep id (.poll (.waiting (due.advancePast now)))
            (due.advancePast now).deadline session := by
          simp only [pollTick, hdue, if_true, hplanned]
        rw [hturn] at hafter
        cases found_of_put hafter
    | cons first rest =>
        have hturn : pollTick id due now session =
            askTarget id (due.advance now) first rest session := by
          simp only [pollTick, hdue, if_true, hplanned]
        rw [hturn] at hafter ⊢
        cases found_of_put hafter
        exact ⟨hplanned, by simp [askTarget, await, put, callsOf]⟩
  · have hturn : pollTick id due now session =
        sleep id (.poll (.waiting due)) due.deadline session := by
      simp only [pollTick, hdue, Bool.false_eq_true, if_false]
    rw [hturn] at hafter
    cases found_of_put hafter

/-- An answer is followed by the next question, or by the tick that is due. -/
theorem questions_pollNext {session : Session} {event : SessionEvent} {before : Timer}
    {first : PlannedPoll} {rest : List PlannedPoll} {answer : Turn}
    (hasked : session.activity? id = some (.poll (.asking before first rest)))
    (hanswer : callsOf id (answer session).2 = [])
    (hafter : (answer.andThen (pollNext id before now rest) session).1.activity? id =
      some (.poll (.asking timer target others))) :
    Questions session id event (answer.andThen (pollNext id before now rest) session) timer target
      others := by
  cases rest with
  | nil =>
      obtain ⟨hplanned, hcalls⟩ := planned_of_pollTick hafter
      refine .planned hplanned ?_
      rw [Turn.andThen_snd, callsOf_append, hanswer, List.nil_append]
      exact hcalls
  | cons second rest =>
      have hafter : (askTarget id before second rest (answer session).1).1.activity? id =
          some (.poll (.asking timer target others)) := hafter
      cases found_of_put hafter
      refine .next hasked ?_
      rw [Turn.andThen_snd, callsOf_append, hanswer, List.nil_append]
      simp [pollNext, askTarget, await, put, callsOf]

theorem questions_react_own {stage : PollStage}
    (hbefore : session.activity? id = some (.poll stage)) (hfor : event.IsFor id)
    (hafter : (react now event session).1.activity? id =
      some (.poll (.asking timer target others))) :
    Questions session id event (react now event session) timer target others := by
  rcases hfor with rfl | ⟨outcome, rfl⟩
  · simp only [react, withActivity, hbefore] at hafter ⊢
    cases stage with
    | starting =>
        obtain ⟨hplanned, hcalls⟩ := planned_of_pollTick hafter
        exact .planned hplanned hcalls
    | waiting due =>
        obtain ⟨hplanned, hcalls⟩ := planned_of_pollTick hafter
        exact .planned hplanned hcalls
    | asking before first rest => exact .kept hafter rfl rfl
  · simp only [react, withActivity, hbefore] at hafter ⊢
    have hidle : ∀ activity, session.activity? id = some (.poll activity) →
        session.activity? id = some (.poll (.asking timer target others)) →
        activity = .asking timer target others := by
      intro activity hfound hasking
      rw [hfound, Option.some.injEq, Activity.poll.injEq] at hasking
      exact hasking
    cases stage with
    | starting => cases hidle _ hbefore hafter
    | waiting due => cases hidle _ hbefore hafter
    | asking before first rest =>
        exact questions_pollNext hbefore (activities_pollState first _ session).2 hafter

theorem questions_react (hwf : WellFormed session)
    (hafter : (react now event session).1.activity? id =
      some (.poll (.asking timer target others))) :
    Questions session id event (react now event session) timer target others := by
  rcases polls_of_react hwf hafter with ⟨stage, hbefore⟩ | ⟨rfl, hnone, attachment, hattachment⟩
  · by_cases hfor : event.IsFor id
    · exact questions_react_own hbefore hfor hafter
    · have hundisturbed := (reaction_react hwf now event).undisturbed hwf
        (hwf.table.lt_of_activity? hbefore)
        (syncStage?_eq_none_of_role hbefore (by simp [Activity.role]))
        (fun hmine => absurd hmine hfor)
      have hevent : event.isOutcomeOf id = false := by
        rw [Bool.eq_false_iff]
        exact fun hmine => hfor (.inr (eq_outcome_of_isOutcomeOf hmine))
      rcases hundisturbed.activity? with hsame | hgone
      · exact .kept (hsame.symm.trans hafter) hevent hundisturbed.calls
      · rw [hgone] at hafter
        cases hafter
  · -- A new poller has not asked anything yet.
    rw [(grows_react hwf now event).activity? _ (Nat.le_refl _), Nat.sub_self,
      newcomers_of_attachment hattachment hnone] at hafter
    cases hafter

theorem questions_step (hwf : WellFormed session)
    (hafter : (step now event session).1.activity? id =
      some (.poll (.asking timer target others))) :
    Questions session id event (step now event session) timer target others := by
  have hreaped := reaped_reap ((reaction_react hwf now event).wellFormed hwf).table
  have hcontexts : (step now event session).1.contexts.contexts =
      (react now event session).1.contexts.contexts := congrArg Backdrop.contexts hreaped.backdrop
  cases questions_react hwf (activity?_react_of_step hwf hafter) with
  | kept hasked hevent hcalls =>
      exact .kept hasked hevent ((callsOf_step hwf id now event).trans hcalls)
  | next hasked hcalls => exact .next hasked ((callsOf_step hwf id now event).trans hcalls)
  | planned hplanned hcalls =>
      refine .planned ?_ ((callsOf_step hwf id now event).trans hcalls)
      rw [Contexts.plannedPolls, hcontexts]
      exact hplanned

/-- Every context that the poller asks about is there, at the epoch of the question or later. -/
def PlansKnown (session : Session) : Prop :=
  ∀ id timer target others, session.activity? id = some (.poll (.asking timer target others)) →
    ∀ planned ∈ target :: others, ∃ context,
      session.contexts.get? planned.thread = some context ∧ planned.epoch ≤ context.epoch

theorem PlansKnown.step (hknown : session.PlansKnown) (hwf : WellFormed session) (now : Nat)
    (event : SessionEvent) : (step now event session).1.PlansKnown := by
  intro id timer target others hafter planned hplanned
  have hlater : ∀ {context : ExecutionContext},
      session.contexts.get? planned.thread = some context → planned.epoch ≤ context.epoch →
      ∃ last, (Session.step now event session).1.contexts.get? planned.thread = some last ∧
        planned.epoch ≤ last.epoch := by
    intro context hget hepoch
    obtain ⟨last, hlast, hgoes⟩ := (commandMove_step hwf now event).goesOn hget
    exact ⟨last, hlast, Nat.le_trans hepoch hgoes.epoch⟩
  cases questions_step hwf hafter with
  | kept hasked hevent hcalls =>
      obtain ⟨context, hget, hepoch⟩ := hknown id _ _ _ hasked planned hplanned
      exact hlater hget hepoch
  | next hasked hcalls =>
      obtain ⟨context, hget, hepoch⟩ :=
        hknown id _ _ _ hasked planned (List.mem_cons_of_mem _ hplanned)
      exact hlater hget hepoch
  | planned hplans hcalls =>
      rw [← hplans] at hplanned
      obtain ⟨context, hmem, -, rfl⟩ := Contexts.mem_plannedPolls_iff.mp hplanned
      exact ⟨context, Contexts.get?_of_mem (wellFormed_step hwf now event).threads hmem,
        Nat.le_refl _⟩

theorem plansKnown_run (config : BackendConfig) (events : List (Nat × SessionEvent)) :
    (run events (ofConfig config)).1.PlansKnown := by
  induction events using List.reverseRecOn with
  | nil =>
      intro id timer target others hactivity
      cases hactivity
  | append_singleton events entry ih =>
      rw [run_snoc]
      exact ih.step (wellFormed_run (WellFormed.ofConfig config) events) entry.1 entry.2

end Steps

end Session

end DebugBridge
