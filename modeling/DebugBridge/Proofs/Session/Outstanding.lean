import DebugBridge.Proofs.Session.Attaching
import DebugBridge.Proofs.Session.ModeCalls

/-!
# Commands outstanding

Until a shutdown, whoever sets the mode of a context has a command of its thread outstanding, and
keeps it until the outcome arrives.  A shutdown leaves nothing behind that attaches or polls.
-/

namespace DebugBridge.Session

section Steps

variable {id now : Nat} {thread : Int} {session : Session} {event : SessionEvent}

/-! ## After a shutdown -/

/-- Once the session is shut down, nothing is left that a shutdown ends. -/
def Retired (session : Session) : Prop :=
  session.isShutDown = true → ∀ id activity, session.activity? id = some activity →
    activity.endsAtShutdown = false

theorem endsAtShutdown_of_duty {before after : Activity} (hduty : before.duty = after.duty) :
    before.endsAtShutdown = after.endsAtShutdown := by
  cases before <;> cases after <;> first | rfl | cases hduty

/-- A reaction shuts the session down, at no activity's event, and then ends all that it has to, or
leaves it as it was. -/
theorem Reaction.isShutDown {out : Session × List Effect} (hreaction : Reaction session event out)
    (hwf : WellFormed session) : out.1.isShutDown = session.isShutDown ∨
      (∀ id, ¬ event.IsFor id) ∧
        ∀ id activity, out.1.activity? id = some activity → activity.endsAtShutdown = false := by
  cases hreaction.backdropMove hwf with
  | kept hafter => exact .inl (congrArg Backdrop.isShutDown hafter)
  | recounted hevent hcommand hafter => exact .inl (congrArg Backdrop.isShutDown hafter)
  | breakpointsSet haccepted hafter => exact .inl (congrArg Backdrop.isShutDown hafter)
  | commandStarted hbegun hafter => exact .inl (congrArg Backdrop.isShutDown hafter)
  | shutDown hevent hended hafter => exact .inr ⟨hevent, hended⟩
  | released hafter => exact .inl (congrArg Backdrop.isShutDown hafter)
  | attached hbegun hpaths hafter => exact .inl (congrArg Backdrop.isShutDown hafter)
  | commandEnded hended hafter => exact .inl (congrArg Backdrop.isShutDown hafter)
  | paused hevent hactivity hafter => exact .inl (congrArg Backdrop.isShutDown hafter)

/-- A session that is shut down starts nothing that a shutdown ends. -/
theorem Retired.lasting_of_newcomer (hretired : session.Retired)
    (hshut : session.isShutDown = true) {newcomer : Activity}
    (hnew : newcomer ∈ session.newcomers event) : newcomer.endsAtShutdown = false := by
  cases event with
  | request request =>
      simp only [newcomers] at hnew
      split at hnew
      · next errand herrand =>
          cases errand with
          | launch arguments serverPath =>
              rw [bearers, if_pos hshut] at hnew
              cases hnew
          | resume thread suffix mode =>
              rw [List.mem_singleton.mp hnew]
              rfl
          | restart resource =>
              rw [List.mem_singleton.mp hnew]
              rfl
          | evaluate expression =>
              rw [List.mem_singleton.mp hnew]
              rfl
      · rw [List.mem_singleton.mp (List.mem_ite_nil_right.mp hnew).2]
        rfl
  | outcome mover outcome =>
      obtain ⟨attachment, hattachment⟩ :=
        Option.isSome_iff_exists.mp (List.mem_ite_nil_right.mp hnew).1
      obtain ⟨_, timer, suffix, -, hasking, -⟩ := attachment?_eq_some hattachment
      cases hretired hshut _ _ hasking
  | shutdown => cases hnew
  | release => cases hnew
  | wake mover => cases hnew

theorem Retired.step (hretired : session.Retired) (hwf : WellFormed session) (now : Nat)
    (event : SessionEvent) : (step now event session).1.Retired := by
  intro hshut id activity hactivity
  have hreaction := reaction_react hwf now event
  have hreaped := reaped_reap (hreaction.wellFormed hwf).table
  rcases hreaction.isShutDown hwf with hsame | ⟨-, hlasting⟩
  · have hbefore : session.isShutDown = true :=
      hsame.symm.trans ((congrArg Backdrop.isShutDown hreaped.backdrop).symm.trans hshut)
    by_cases hbelow : id < session.nextActivity
    · obtain ⟨before, hfound, hduty⟩ := duty_of_step hwf hbelow hactivity
      rw [← endsAtShutdown_of_duty hduty]
      exact hretired hbefore id before hfound
    · exact hretired.lasting_of_newcomer hbefore
        (List.mem_of_getElem? (newcomer_of_step hwf (Nat.le_of_not_lt hbelow) hactivity))
  · exact hlasting id activity (activity?_react_of_step hwf hactivity)

theorem retired_run (config : BackendConfig) (events : List (Nat × SessionEvent)) :
    (run events (ofConfig config)).1.Retired := by
  induction events using List.reverseRecOn with
  | nil =>
      intro hshut
      cases hshut
  | append_singleton events entry ih =>
      rw [run_snoc]
      exact ih.step (wellFormed_run (WellFormed.ofConfig config) events) entry.1 entry.2

/-- A session that was shut down stays so. -/
theorem isShutDown_run (hwf : WellFormed session) (events : List (Nat × SessionEvent))
    (hopen : (run events session).1.isShutDown = false) : session.isShutDown = false := by
  induction events generalizing session with
  | nil => exact hopen
  | cons event events ih =>
      have hnext := ih (wellFormed_step hwf event.1 event.2) hopen
      have hmove := @commandMove_step 0 session hwf event.1 event.2
      generalize milestones 0 session event.2 (step event.1 event.2 session) = new at hmove
      cases hmove with
      | quiet hget hcommands => exact hcommands.stillOpen hnext
      | began hget hafter hcommands hnew hlive => exact hcommands.stillOpen hnext
      | completed hlive hafter hcommands hgone => exact hcommands.stillOpen hnext
      | stopped hget hrunning hidle hafter hcommands => exact hcommands.stillOpen hnext

/-! ## Commands -/

theorem mem_markIf {milestone : Nat → Milestone} {command? : Option (Nat × Int)}
    {found : Milestone} : found ∈ markIf thread milestone command? ↔
      ∃ id, command? = some (id, thread) ∧ found = milestone id := by
  cases command? with
  | none => simp [markIf]
  | some command =>
      obtain ⟨other, named⟩ := command
      simp only [markIf, List.mem_ite_nil_right, List.mem_singleton, Option.some.injEq,
        Prod.mk.injEq]
      constructor
      · rintro ⟨rfl, rfl⟩
        exact ⟨other, ⟨rfl, rfl⟩, rfl⟩
      · rintro ⟨_, ⟨rfl, rfl⟩, rfl⟩
        exact ⟨rfl, rfl⟩

/-- A command is completed by the event that answers it. -/
theorem endedCommand?_of_completed {out : Session × List Effect}
    (hcompleted : .completed id ∈ milestones thread session event out) :
    session.endedCommand? event = some (id, thread) := by
  simp only [milestones, List.mem_append, mem_markIf, List.mem_replicate] at hcompleted
  rcases hcompleted with (⟨other, hended, hsame⟩ | ⟨-, hsame⟩) | ⟨other, -, hsame⟩
  · cases hsame
    exact hended
  · cases hsame
  · cases hsame

/-- A command ends only with its own outcome, or with a shutdown. -/
theorem isCommand_step_of_other (hwf : WellFormed session)
    (hcommand : session.isCommand thread id = true) (hother : event.isOutcomeOf id = false)
    (hopen : (step now event session).1.isShutDown = false) :
    (step now event session).1.isCommand thread id = true := by
  have hmove := @commandMove_step thread session hwf now event
  generalize hnew : milestones thread session event (step now event session) = new at hmove
  cases hmove with
  | quiet hget hcommands => exact hcommands.kept hopen id trivial hcommand
  | @began other context hget hafter hcommands hfresh hlive =>
      have hne : id ≠ other := by
        rintro rfl
        rw [hcommand] at hfresh
        cases hfresh
      exact hcommands.kept hopen id hne hcommand
  | @completed other hlive hafter hcommands hgone =>
      have hne : id ≠ other := by
        rintro rfl
        obtain ⟨outcome, activity, rfl, -, -⟩ := endedCommand?_eq_some
          (endedCommand?_of_completed (hnew ▸ List.mem_singleton_self _))
        simp [SessionEvent.isOutcomeOf] at hother
      exact hcommands.kept hopen id hne hcommand
  | stopped hget hrunning hidle hafter hcommands => exact hcommands.kept hopen id trivial hcommand

/-- A command that is begun is outstanding. -/
theorem isCommand_of_begunCommand? (hwf : WellFormed session)
    (hbegun : session.begunCommand? event = some (id, thread)) (now : Nat) :
    (step now event session).1.isCommand thread id = true := by
  have hmove := @commandMove_step thread session hwf now event
  have hmem : .began id ∈ milestones thread session event (step now event session) :=
    List.mem_append_right _ (mem_markIf.mpr ⟨id, hbegun, rfl⟩)
  generalize milestones thread session event (step now event session) = new at hmove hmem
  cases hmove with
  | quiet hget hcommands => cases hmem
  | began hget hafter hcommands hfresh hlive =>
      cases List.mem_singleton.mp hmem
      exact hlive
  | completed hlive hafter hcommands hgone => cases List.mem_singleton.mp hmem
  | stopped hget hrunning hidle hafter hcommands => cases List.mem_singleton.mp hmem

/-- Whoever is to set the mode of a context has a command of its thread outstanding. -/
theorem isCommand_of_modeCall? (hwf : WellFormed session) (haddressed : AllAddressed session)
    {call : ModeCall} (hcall : session.modeCall? event = some call)
    (hopen : (step now event session).1.isShutDown = false) :
    ∃ thread, (step now event session).1.isCommand thread call.activity = true ∧
      (session.contexts.address? thread).map (·.suffix) = some call.suffix := by
  have hattached : (session.attachment? event).bind session.entryCall? = some call →
      ∃ thread, (step now event session).1.isCommand thread call.activity = true ∧
        (session.contexts.address? thread).map (·.suffix) = some call.suffix := by
    intro hentry
    obtain ⟨attachment, hattachment, hmade⟩ := Option.bind_eq_some_iff.mp hentry
    obtain ⟨address, haddress, rfl⟩ := Option.map_eq_some_iff.mp hmade
    exact ⟨attachment.thread,
      isCommand_of_begunCommand? hwf (begunCommand?_of_attachment hattachment) now,
      congrArg (Option.map _) haddress⟩
  cases event with
  | wake id =>
      simp only [modeCall?] at hcall
      split at hcall
      · next request thread suffix mode hactivity =>
          cases hcall
          have hcommand : session.isCommand thread id = true :=
            isCommand_eq_true_iff.mpr ⟨_, hactivity, rfl⟩
          exact ⟨thread, isCommand_step_of_other hwf hcommand rfl hopen,
            haddressed id _ hactivity⟩
      · cases hcall
  | request request => exact hattached hcall
  | shutdown => exact hattached hcall
  | release => exact hattached hcall
  | outcome id outcome => exact hattached hcall

end Steps

/-! ## Contexts with commands -/

section Contexts

variable {thread : Int} {session after : Session} {new : List Milestone}

/-- With a command in flight, the context of the thread runs. -/
def Occupied (thread : Int) (session : Session) : Prop :=
  ∀ context, session.contexts.get? thread = some context → context.inFlight ≠ 0 →
    context.running = true

theorem CommandMove.occupied (hmove : CommandMove thread session after new)
    (hoccupied : Occupied thread session) : Occupied thread after := by
  intro context hcontext hinFlight
  cases hmove with
  | quiet hget hcommands => exact hoccupied context (hget.symm.trans hcontext) hinFlight
  | began hget hafter hcommands hnew hlive =>
      cases hafter.symm.trans hcontext
      rfl
  | completed hlive hafter hcommands hgone =>
      obtain ⟨before, hbefore, rfl⟩ := Option.map_eq_some_iff.mp (hafter.symm.trans hcontext)
      refine hoccupied before hbefore fun hnone => hinFlight ?_
      rw [ExecutionContext.endCommand, hnone]
  | stopped hget hrunning hidle hafter hcommands =>
      cases hafter.symm.trans hcontext
      exact absurd hidle hinFlight

theorem occupied_run (config : BackendConfig) (events : List (Nat × SessionEvent))
    (thread : Int) : Occupied thread (run events (ofConfig config)).1 := by
  induction events using List.reverseRecOn with
  | nil =>
      intro context hcontext hinFlight
      have hledger := Ledger.ofConfig config thread
      exact absurd (hledger.inFlight context hcontext) hinFlight
  | append_singleton events entry ih =>
      rw [run_snoc]
      exact (commandMove_step (wellFormed_run (WellFormed.ofConfig config) events) entry.1
        entry.2).occupied ih

end Contexts

/-- Where nothing is in flight, no command is outstanding. -/
theorem Ledger.not_isCommand {thread : Int} {log : List Milestone} {session : Session}
    (hledger : Ledger thread log session) {context : ExecutionContext}
    (hget : session.contexts.get? thread = some context) (hidle : context.inFlight = 0) (id : Nat) :
    session.isCommand thread id = false := by
  rw [hledger.inFlight context hget] at hidle
  rw [Bool.eq_false_iff]
  intro hcommand
  have hmem := hledger.live id hcommand
  rw [List.length_eq_zero_iff.mp hidle] at hmem
  cases hmem

/-- A context with a command outstanding is polled. -/
theorem plannedPolls_ne_nil_of_isCommand (config : BackendConfig)
    (events : List (Nat × SessionEvent)) {thread : Int} {id : Nat}
    (hcommand : (run events (ofConfig config)).1.isCommand thread id = true)
    {context : ExecutionContext}
    (hget : (run events (ofConfig config)).1.contexts.get? thread = some context) :
    (run events (ofConfig config)).1.contexts.plannedPolls ≠ [] := by
  have hinFlight : context.inFlight ≠ 0 := by
    intro hidle
    rw [(ledger_run config events thread).not_isCommand hget hidle id] at hcommand
    cases hcommand
  have hrunning := occupied_run config events thread context hget hinFlight
  have hmem : context ∈ (run events (ofConfig config)).1.contexts.contexts.filter (·.running) :=
    List.mem_filter.mpr ⟨List.mem_of_find?_eq_some hget, hrunning⟩
  rw [Contexts.plannedPolls, ne_eq, List.map_eq_nil_iff]
  exact List.ne_nil_of_mem hmem

end DebugBridge.Session
