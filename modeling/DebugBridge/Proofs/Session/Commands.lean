import DebugBridge.Proofs.Session.Milestones
import DebugBridge.Proofs.Session.Runs

/-!
# Commands and stops

A command of a thread is outstanding from the moment its activity takes on its role until the
outcome of its call.  Along every run the log of a thread stays in step with its context: as many
commands are in flight as were begun and not completed, and a running context has had a command
since its last stop.
-/

namespace DebugBridge.Session

open Milestone

/-- The activity issues a command of the thread and waits for its answer. -/
def isCommand (session : Session) (thread : Int) (id : Nat) : Bool :=
  (session.activity? id).any fun activity => activity.role = .commanding thread

theorem isCommand_eq_true_iff {session : Session} {thread : Int} {id : Nat} :
    session.isCommand thread id = true ↔
      ∃ activity, session.activity? id = some activity ∧ activity.role = .commanding thread := by
  simp [isCommand, Option.any_eq_true]

theorem isCommand_congr {session other : Session} {id : Nat}
    (hactivity : other.activity? id = session.activity? id) (thread : Int) :
    other.isCommand thread id = session.isCommand thread id := by
  rw [isCommand, isCommand, hactivity]

/-- A milestone of the command, if it is one of the thread. -/
def markIf (thread : Int) (milestone : Nat → Milestone) : Option (Nat × Int) → List Milestone
  | some (id, other) => if other = thread then [milestone id] else []
  | none => []

/-- What an event adds to the log of a thread: the command that it answers, the stops reported, and
the command that it begins. -/
def milestones (thread : Int) (session : Session) (event : SessionEvent)
    (out : Session × List Effect) : List Milestone :=
  markIf thread .completed (session.endedCommand? event) ++
    List.replicate (stopsOf thread out.2) .stopped ++
    markIf thread .began (session.begunCommand? event)

/-- The log of a thread over a run. -/
def chronicle (thread : Int) : List (Nat × SessionEvent) → Session → List Milestone
  | [], _ => []
  | (now, event) :: events, session =>
    milestones thread session event (step now event session) ++
      chronicle thread events (step now event session).1

/-! ## The log of one event -/

section Milestones

variable {thread : Int} {session : Session} {event : SessionEvent} {out : Session × List Effect}

theorem markIf_eq_nil {milestone : Nat → Milestone} {command? : Option (Nat × Int)}
    (hother : ∀ id, command? ≠ some (id, thread)) : markIf thread milestone command? = [] := by
  cases hcase : command? with
  | none => rfl
  | some command =>
      have hne : command.2 ≠ thread := by
        rintro rfl
        exact hother command.1 hcase
      exact if_neg hne

theorem markIf_eq_singleton (milestone : Nat → Milestone) (id : Nat) :
    markIf thread milestone (some (id, thread)) = [milestone id] :=
  if_pos rfl

theorem milestones_quiet (hended : ∀ id, session.endedCommand? event ≠ some (id, thread))
    (hbegun : ∀ id, session.begunCommand? event ≠ some (id, thread))
    (hstops : stopsOf thread out.2 = 0) : milestones thread session event out = [] := by
  rw [milestones, markIf_eq_nil hended, markIf_eq_nil hbegun, hstops]
  rfl

theorem milestones_began {id : Nat} (hended : ∀ id, session.endedCommand? event ≠ some (id, thread))
    (hbegun : session.begunCommand? event = some (id, thread))
    (hstops : stopsOf thread out.2 = 0) : milestones thread session event out = [.began id] := by
  rw [milestones, markIf_eq_nil hended, hbegun, markIf_eq_singleton, hstops]
  rfl

theorem milestones_completed {id : Nat} (hended : session.endedCommand? event = some (id, thread))
    (hbegun : ∀ id, session.begunCommand? event ≠ some (id, thread))
    (hstops : stopsOf thread out.2 = 0) :
    milestones thread session event out = [.completed id] := by
  rw [milestones, hended, markIf_eq_singleton, markIf_eq_nil hbegun, hstops]
  rfl

theorem milestones_stopped (hended : ∀ id, session.endedCommand? event ≠ some (id, thread))
    (hbegun : ∀ id, session.begunCommand? event ≠ some (id, thread))
    (hstops : stopsOf thread out.2 = 1) : milestones thread session event out = [.stopped] := by
  rw [milestones, markIf_eq_nil hended, markIf_eq_nil hbegun, hstops]
  rfl

end Milestones

/-! ## Commands before and after -/

/-- The meant commands of a thread stay as they are, except that a shutdown may end some. -/
structure SameCommands (thread : Int) (meant : Nat → Prop) (session after : Session) : Prop where
  old : ∀ id, meant id → after.isCommand thread id = true → session.isCommand thread id = true
  stillOpen : after.isShutDown = false → session.isShutDown = false
  kept : after.isShutDown = false → ∀ id, meant id → session.isCommand thread id = true →
    after.isCommand thread id = true

section Sources

variable {thread : Int} {session base after : Session} {out : Session × List Effect}

theorem SameCommands.of_eq {meant : Nat → Prop} (hbackdrop : after.isShutDown = session.isShutDown)
    (hsame : ∀ id, meant id → after.isCommand thread id = session.isCommand thread id) :
    SameCommands thread meant session after where
  old id hid hcommand := (hsame id hid).symm.trans hcommand
  stillOpen hopen := hbackdrop.symm.trans hopen
  kept _ id hid hcommand := (hsame id hid).trans hcommand

/-- Nothing is promised once the session is shut down. -/
theorem SameCommands.of_isShutDown {meant : Nat → Prop} (hshut : after.isShutDown = true)
    (hold : ∀ id, meant id → after.isCommand thread id = true →
      session.isCommand thread id = true) :
    SameCommands thread meant session after where
  old := hold
  stillOpen hopen := by
    rw [hshut] at hopen
    cases hopen
  kept hopen := by
    rw [hshut] at hopen
    cases hopen

theorem isCommand_of_silent (hsilent : Silent base out)
    (hactivities : base.activities = session.activities) (id : Nat) :
    out.1.isCommand thread id = session.isCommand thread id :=
  isCommand_congr ((hsilent.activity? id).trans (activity?_congr hactivities id)) thread

theorem isCommand_of_spawns {fresh : List Activity} (hspawns : Spawns fresh base out)
    (htable : TableOk base) (hfresh : ∀ activity ∈ fresh, activity.role ≠ .commanding thread)
    (hactivities : base.activities = session.activities) (id : Nat) :
    out.1.isCommand thread id = session.isCommand thread id := by
  by_cases hid : id < base.nextActivity
  · apply isCommand_congr
    rw [hspawns.activity? htable, if_pos hid, activity?_congr hactivities]
  · have hnone := htable.activity?_eq_none (Nat.le_of_not_lt hid)
    rw [activity?_congr hactivities] at hnone
    rw [isCommand, isCommand, hspawns.activity? htable, if_neg hid, hnone]
    cases hnew : fresh[id - base.nextActivity]? with
    | none => rfl
    | some activity => simpa using hfresh activity (List.mem_of_getElem? hnew)

theorem isCommand_of_local {id : Nat} {allowed : BackendCall → Prop} {mine : Activity → Prop}
    (hlocal : Local id allowed mine base out) (hactivities : base.activities = session.activities)
    {other : Nat} (hother : other ≠ id) :
    out.1.isCommand thread other = session.isCommand thread other :=
  isCommand_congr ((hlocal.others other hother).trans (activity?_congr hactivities other)) thread

/-- An activity that moves on in its role becomes no command, and stays one if it was. -/
theorem isCommand_of_moved {id : Nat} {activity : Activity} {allowed : BackendCall → Prop}
    {mine : Activity → Prop} (hlocal : Local id allowed mine base out)
    (hactivity : session.activity? id = some activity)
    (hmine : ∀ next, mine next → next.role = activity.role)
    (hpresent : ∀ thread, activity.role = .commanding thread → (out.1.activity? id).isSome)
    (hactivities : base.activities = session.activities) (other : Nat) :
    out.1.isCommand thread other = session.isCommand thread other := by
  by_cases hother : other = id
  · subst hother
    cases hnext : out.1.activity? other with
    | none =>
        have hidle : activity.role ≠ .commanding thread := by
          intro hrole
          have hsome := hpresent thread hrole
          rw [hnext] at hsome
          cases hsome
        simp [isCommand, hnext, hactivity, hidle]
    | some next => simp [isCommand, hnext, hactivity, hmine next (hlocal.own next hnext)]
  · exact isCommand_of_local hlocal hactivities hother

theorem isCommand_of_cancel (htable : TableOk session) (isMeant : Activity → Bool) (id : Nat)
    (hcommand : (cancel isMeant session).1.isCommand thread id = true) :
    session.isCommand thread id = true := by
  obtain ⟨activity, hactivity, hrole⟩ := isCommand_eq_true_iff.mp hcommand
  rw [activity?_cancel htable, Option.filter_eq_some_iff] at hactivity
  exact isCommand_eq_true_iff.mpr ⟨activity, hactivity.1, hrole⟩

/-- No sync is a command. -/
theorem isCommand_of_syncFrame {id : Nat} (hframe : SyncFrame id session out) (other : Nat) :
    out.1.isCommand thread other = session.isCommand thread other := by
  cases hknown : session.syncStage? other with
  | none => exact isCommand_congr (hframe.others other hknown) thread
  | some stage =>
      have hbefore := syncStage?_eq_some_iff.mp hknown
      cases hactivity : out.1.activity? other with
      | none => simp [isCommand, hactivity, hbefore, Activity.role]
      | some activity =>
          obtain ⟨next, rfl⟩ :=
            hframe.syncs other activity (Option.isSome_of_eq_some hknown) hactivity
          simp [isCommand, hactivity, hbefore, Activity.role]

end Sources

/-! ## Moves of one thread -/

/-- What an event does to the commands and the context of a thread, and what it adds to the log. -/
inductive CommandMove (thread : Int) (session after : Session) : List Milestone → Prop
  | quiet (hget : after.contexts.get? thread = session.contexts.get? thread)
      (hcommands : SameCommands thread (fun _ => True) session after) :
      CommandMove thread session after []
  | began {id : Nat} {context : ExecutionContext}
      (hget : session.contexts.get? thread = some context)
      (hafter : after.contexts.get? thread = some context.startCommand)
      (hcommands : SameCommands thread (· ≠ id) session after)
      (hnew : session.isCommand thread id = false) (hlive : after.isCommand thread id = true) :
      CommandMove thread session after [.began id]
  | completed {id : Nat} (hlive : session.isCommand thread id = true)
      (hafter : after.contexts.get? thread =
        (session.contexts.get? thread).map ExecutionContext.endCommand)
      (hcommands : SameCommands thread (· ≠ id) session after)
      (hgone : after.isCommand thread id = false) :
      CommandMove thread session after [.completed id]
  | stopped {context : ExecutionContext} {state : RunState}
      (hget : session.contexts.get? thread = some context)
      (hrunning : context.running = true) (hidle : context.inFlight = 0)
      (hafter : after.contexts.get? thread = some (context.pauseWith state))
      (hcommands : SameCommands thread (fun _ => True) session after) :
      CommandMove thread session after [.stopped]

/-- A move is about the context, the commands and the shutdown alone. -/
theorem CommandMove.congr {thread : Int} {session after other : Session} {new : List Milestone}
    (hmove : CommandMove thread session after new)
    (hget : other.contexts.get? thread = after.contexts.get? thread)
    (hcommand : ∀ id, other.isCommand thread id = after.isCommand thread id)
    (hshut : other.isShutDown = after.isShutDown) : CommandMove thread session other new := by
  have hsame : ∀ {meant : Nat → Prop}, SameCommands thread meant session after →
      SameCommands thread meant session other := by
    intro meant hcommands
    constructor
    · intro id hid hnew
      exact hcommands.old id hid ((hcommand id).symm.trans hnew)
    · intro hopen
      exact hcommands.stillOpen (hshut.symm.trans hopen)
    · intro hopen id hid hold
      exact (hcommand id).trans (hcommands.kept (hshut.symm.trans hopen) id hid hold)
  cases hmove with
  | quiet hafter hcommands => exact .quiet (hget.trans hafter) (hsame hcommands)
  | @began id context hbefore hafter hcommands hnew hlive =>
      exact .began hbefore (hget.trans hafter) (hsame hcommands) hnew
        ((hcommand id).trans hlive)
  | @completed id hlive hafter hcommands hgone =>
      exact .completed hlive (hget.trans hafter) (hsame hcommands) ((hcommand id).trans hgone)
  | stopped hbefore hrunning hidle hafter hcommands =>
      exact .stopped hbefore hrunning hidle (hget.trans hafter) (hsame hcommands)

section Move

variable {thread : Int} {session : Session} {event : SessionEvent} {out : Session × List Effect}

theorem commandMove_quiet (hended : ∀ id, session.endedCommand? event ≠ some (id, thread))
    (hbegun : ∀ id, session.begunCommand? event ≠ some (id, thread))
    (hstops : stopsOf thread out.2 = 0)
    (hget : out.1.contexts.get? thread = session.contexts.get? thread)
    (hcommands : SameCommands thread (fun _ => True) session out.1) :
    CommandMove thread session out.1 (milestones thread session event out) := by
  rw [milestones_quiet hended hbegun hstops]
  exact .quiet hget hcommands

theorem get?_of_backdrop {base : Session} (hbackdrop : out.1.backdrop = base.backdrop)
    (hcontexts : base.contexts.contexts = session.contexts.contexts) :
    out.1.contexts.get? thread = session.contexts.get? thread :=
  Contexts.get?_congr ((congrArg Backdrop.contexts hbackdrop).trans hcontexts) thread

/-- A turn that keeps the backdrop and every command of the thread is quiet. -/
theorem commandMove_unchanged (hended : ∀ id, session.endedCommand? event ≠ some (id, thread))
    (hbegun : ∀ id, session.begunCommand? event ≠ some (id, thread))
    (hstops : stopsOf thread out.2 = 0) {base : Session}
    (hbackdrop : out.1.backdrop = base.backdrop)
    (hcontexts : base.contexts.contexts = session.contexts.contexts)
    (hshut : base.isShutDown = session.isShutDown)
    (hcommands : ∀ id, out.1.isCommand thread id = session.isCommand thread id) :
    CommandMove thread session out.1 (milestones thread session event out) :=
  commandMove_quiet hended hbegun hstops (get?_of_backdrop hbackdrop hcontexts)
    (.of_eq ((congrArg Backdrop.isShutDown hbackdrop).trans hshut) fun id _ => hcommands id)

/-- An accepted request to go on begins a command of its thread. -/
theorem commandMove_commandStarted {request : Request} {started : Int}
    {context : ExecutionContext} {mode : ResumeMode} (htable : TableOk session)
    (hbegun : session.begunCommand? (.request request) = some (session.nextActivity, started))
    (hget : session.contexts.get? started = some context)
    (hspawns : Spawns [.resume request started context.suffix mode .starting]
      { session with contexts := (session.contexts.startCommand started).2 } out) :
    CommandMove thread session out.1 (milestones thread session (.request request) out) := by
  have hbase : TableOk { session with
    contexts := (session.contexts.startCommand started).2 } := htable.congr rfl rfl
  have hafter : out.1.contexts.get? thread = if thread = started
      then (session.contexts.get? thread).map ExecutionContext.startCommand
      else session.contexts.get? thread :=
    (get?_of_backdrop hspawns.backdrop rfl).trans
      (Contexts.get?_startCommand session.contexts started thread)
  have hshut : out.1.isShutDown = session.isShutDown :=
    congrArg Backdrop.isShutDown hspawns.backdrop
  have hstops := stopsOf_eq_zero hspawns.effects thread
  have hended : ∀ id, session.endedCommand? (.request request) ≠ some (id, thread) := by
    simp [endedCommand?]
  by_cases hthread : thread = started
  · subst hthread
    rw [if_pos rfl, hget, Option.map_some] at hafter
    rw [milestones_began hended hbegun hstops]
    have hlookup : ∀ other, out.1.activity? other =
        if other < session.nextActivity then session.activity? other
        else [Activity.resume request thread context.suffix mode
          .starting][other - session.nextActivity]? := hspawns.activity? hbase
    have hnone := htable.activity?_eq_none (Nat.le_refl session.nextActivity)
    refine .began hget hafter (.of_eq hshut fun other hother => ?_) ?_ ?_
    · by_cases hlate : other < session.nextActivity
      · exact isCommand_congr ((hlookup other).trans (if_pos hlate)) thread
      · have hlength : 1 ≤ other - session.nextActivity := by omega
        have hbefore := htable.activity?_eq_none (Nat.le_of_not_lt hlate)
        rw [isCommand, isCommand, hlookup, if_neg hlate, List.getElem?_eq_none hlength, hbefore]
    · simp [isCommand, hnone]
    · simp [isCommand, hlookup, Activity.role]
  · rw [if_neg hthread] at hafter
    have hfresh : ∀ activity ∈ [Activity.resume request started context.suffix mode .starting],
        activity.role ≠ .commanding thread := by
      intro activity hactivity hrole
      rw [List.mem_singleton.mp hactivity, Activity.role, Role.commanding.injEq] at hrole
      exact hthread hrole.symm
    refine commandMove_quiet hended ?_ hstops hafter
      (.of_eq hshut fun id _ => isCommand_of_spawns hspawns hbase hfresh rfl id)
    rw [hbegun]
    simp [Ne.symm hthread]

/-- An attach ends with the command that lets its context go on. -/
theorem commandMove_attached {id : Nat} {outcome : Outcome} {attached : Int}
    {context : ExecutionContext} {timer : Timer} {suffix : String}
    {paths : ResourceDirectories} {fresh : List Activity} {allowed : BackendCall → Prop}
    {prelude rest : Session × List Effect} (htable : TableOk session)
    (hactivity : session.activity? id = some (.attach attached (.asking timer suffix)))
    (hbegun : session.begunCommand? (.outcome id outcome) = some (id, attached))
    (hprelude : Spawns fresh { session with paths := some paths } prelude)
    (hfresh : ∀ activity ∈ fresh, activity.role ≠ .commanding thread)
    (hget : session.contexts.get? attached = some context)
    (hlocal : Local id allowed (fun next => next.role = .commanding attached)
      { prelude.1 with contexts := (prelude.1.contexts.startCommand attached).2 } rest)
    (hpresent : (rest.1.activity? id).isSome) :
    CommandMove thread session rest.1
      (milestones thread session (.outcome id outcome) (rest.1, prelude.2 ++ rest.2)) := by
  have hbase : TableOk { session with paths := some paths } := htable.congr rfl rfl
  have hended : ∀ other, session.endedCommand? (.outcome id outcome) ≠ some (other, thread) := by
    simp [endedCommand?, hactivity]
  have hstops : stopsOf thread (prelude.2 ++ rest.2) = 0 := by
    rw [stopsOf_append, stopsOf_eq_zero hprelude.effects, stopsOf_eq_zero hlocal.effects]
  have hshut : rest.1.isShutDown = session.isShutDown := by
    have hlast : rest.1.isShutDown = prelude.1.isShutDown :=
      congrArg Backdrop.isShutDown hlocal.backdrop
    exact hlast.trans (congrArg Backdrop.isShutDown hprelude.backdrop)
  have hothers : ∀ other ≠ id,
      rest.1.isCommand thread other = session.isCommand thread other := by
    intro other hother
    have hmid : rest.1.isCommand thread other = prelude.1.isCommand thread other :=
      isCommand_of_local hlocal rfl hother
    exact hmid.trans (isCommand_of_spawns hprelude hbase hfresh rfl other)
  have hnew : session.isCommand thread id = false := by
    simp [isCommand, hactivity, Activity.role]
  obtain ⟨next, hnext⟩ := Option.isSome_iff_exists.mp hpresent
  have hlive : rest.1.isCommand thread id = decide (attached = thread) := by
    simp [isCommand, hnext, hlocal.own next hnext]
  have hmidGet : prelude.1.contexts.get? thread = session.contexts.get? thread :=
    Contexts.get?_congr (congrArg Backdrop.contexts hprelude.backdrop) thread
  have hafter : rest.1.contexts.get? thread = if thread = attached
      then (session.contexts.get? thread).map ExecutionContext.startCommand
      else session.contexts.get? thread := by
    rw [← hmidGet]
    exact (get?_of_backdrop hlocal.backdrop rfl).trans
      (Contexts.get?_startCommand prelude.1.contexts attached thread)
  by_cases hthread : thread = attached
  · subst hthread
    rw [if_pos rfl, hget, Option.map_some] at hafter
    rw [@milestones_began thread session _ (rest.1, prelude.2 ++ rest.2) id hended hbegun hstops]
    exact .began hget hafter (.of_eq hshut hothers) hnew (by simp [hlive])
  · rw [if_neg hthread] at hafter
    have hother : ∀ other, session.begunCommand? (.outcome id outcome) ≠ some (other, thread) := by
      rw [hbegun]
      simp [Ne.symm hthread]
    refine @commandMove_quiet thread session _ (rest.1, prelude.2 ++ rest.2) hended hother hstops
      hafter (.of_eq hshut fun other _ => ?_)
    by_cases hsame : other = id
    · rw [hsame, hlive, hnew]
      simp [Ne.symm hthread]
    · exact hothers other hsame

/-- The answer to a command completes it, whatever it is. -/
theorem commandMove_commandEnded {id : Nat} {ended : Int}
    (hended : session.endedCommand? event = some (id, ended))
    (hlocal : Local id (fun _ => False) (fun _ => False)
      { session with contexts := session.contexts.endCommand ended } out) :
    CommandMove thread session out.1 (milestones thread session event out) := by
  have hafter : out.1.contexts.get? thread = if thread = ended
      then (session.contexts.get? thread).map ExecutionContext.endCommand
      else session.contexts.get? thread :=
    (get?_of_backdrop hlocal.backdrop rfl).trans
      (Contexts.get?_endCommand session.contexts ended thread)
  have hshut : out.1.isShutDown = session.isShutDown :=
    congrArg Backdrop.isShutDown hlocal.backdrop
  have hstops := stopsOf_eq_zero hlocal.effects thread
  have hgone : out.1.isCommand thread id = false := by
    cases hnext : out.1.activity? id with
    | none => simp [isCommand, hnext]
    | some next => exact (hlocal.own next hnext).elim
  have hothers : ∀ other ≠ id,
      out.1.isCommand thread other = session.isCommand thread other :=
    fun other hother => isCommand_of_local hlocal rfl hother
  obtain ⟨outcome, activity, rfl, hactivity, hrole⟩ := endedCommand?_eq_some hended
  have hbegun : session.begunCommand? (.outcome id outcome) = none := by
    refine begunCommand?_eq_none (.inr ⟨outcome, rfl⟩) fun other known hother hattaching => ?_
    rw [hactivity, Option.some.injEq] at hother
    rw [← hother, hrole] at hattaching
    cases hattaching
  by_cases hthread : thread = ended
  · subst hthread
    rw [if_pos rfl] at hafter
    rw [milestones_completed hended (by simp [hbegun]) hstops]
    exact .completed (isCommand_eq_true_iff.mpr ⟨activity, hactivity, hrole⟩) hafter
      (.of_eq hshut hothers) hgone
  · rw [if_neg hthread] at hafter
    refine commandMove_quiet ?_ (by simp [hbegun]) hstops hafter (.of_eq hshut fun other _ => ?_)
    · rw [hended]
      simp [Ne.symm hthread]
    · by_cases hother : other = id
      · rw [hother, hgone]
        simp [isCommand, hactivity, hrole, Ne.symm hthread]
      · exact hothers other hother

/-- A pause is reported only where the context runs and no command is outstanding. -/
theorem commandMove_paused {id : Nat} {outcome : Outcome} {timer : Timer} {target : PlannedPoll}
    {others : List PlannedPoll} {state : RunState} {allowed : BackendCall → Prop}
    {report rest : Session × List Effect}
    (hactivity : session.activity? id = some (.poll (.asking timer target others)))
    (haccepted : (session.contexts.applyPoll target state).1 = true)
    (hreport : Reports target.thread
      { session with contexts := (session.contexts.applyPoll target state).2 } report)
    (hlocal : Local id allowed (fun next => next.role = .polling) report.1 rest) :
    CommandMove thread session rest.1
      (milestones thread session (.outcome id outcome) (rest.1, report.2 ++ rest.2)) := by
  have hended : ∀ other, session.endedCommand? (.outcome id outcome) ≠ some (other, thread) := by
    simp [endedCommand?, hactivity]
  have hbegun : ∀ other, session.begunCommand? (.outcome id outcome) ≠ some (other, thread) := by
    simp [begunCommand?, hactivity]
  have hstops : stopsOf thread (report.2 ++ rest.2) = if thread = target.thread then 1 else 0 := by
    rw [stopsOf_append, hreport.stops, stopsOf_eq_zero hlocal.effects, Nat.add_zero]
  have hcommands : SameCommands thread (fun _ => True) session rest.1 := by
    refine .of_eq ?_ fun other _ => isCommand_of_moved hlocal hactivity (fun next hrole => hrole)
      (by simp [Activity.role]) hreport.activities other
    have hlast : rest.1.isShutDown = report.1.isShutDown :=
      congrArg Backdrop.isShutDown hlocal.backdrop
    exact hlast.trans (congrArg Backdrop.isShutDown hreport.backdrop)
  have hafter : rest.1.contexts.get? thread = if thread = target.thread
      then (session.contexts.get? thread).map fun context => context.pauseWith state
      else session.contexts.get? thread := by
    have happlied := Contexts.get?_applyPoll session.contexts target state thread
    simp only [haccepted, true_and] at happlied
    exact (get?_of_backdrop hlocal.backdrop rfl).trans
      ((get?_of_backdrop hreport.backdrop rfl).trans happlied)
  obtain ⟨context, hget, hfresh⟩ := Contexts.applyPoll_fst_eq_true_iff.mp haccepted
  obtain ⟨-, hrunning, hidle, -⟩ := Contexts.isFreshPause_eq_true_iff.mp hfresh
  by_cases hthread : thread = target.thread
  · rw [if_pos hthread] at hstops hafter
    rw [← hthread] at hget
    rw [hget, Option.map_some] at hafter
    rw [@milestones_stopped thread session _ (rest.1, report.2 ++ rest.2) hended hbegun hstops]
    exact .stopped hget hrunning hidle hafter hcommands
  · rw [if_neg hthread] at hstops hafter
    exact @commandMove_quiet thread session _ (rest.1, report.2 ++ rest.2) hended hbegun hstops
      hafter hcommands

end Move

/-- Every reaction makes one move of each thread. -/
theorem Reaction.commandMove {session : Session} {event : SessionEvent}
    {out : Session × List Effect} (hreaction : Reaction session event out)
    (hwf : WellFormed session) (thread : Int) :
    CommandMove thread session out.1 (milestones thread session event out) := by
  cases hreaction with
  | answered hplain hsilent =>
      exact commandMove_unchanged (by simp [hplain.ended]) (by simp [hplain.begun])
        (stopsOf_eq_zero hsilent.effects thread) hsilent.backdrop rfl rfl
        (isCommand_of_silent hsilent rfl)
  | recounted hcommand hsilent =>
      exact commandMove_unchanged (by simp [endedCommand?])
        (by simp [begunCommand?, hcommand, resumeCommands])
        (stopsOf_eq_zero hsilent.effects thread) hsilent.backdrop rfl rfl
        (isCommand_of_silent hsilent rfl)
  | started hplain hfresh hspawns =>
      refine commandMove_unchanged (by simp [hplain.ended]) (by simp [hplain.begun])
        (stopsOf_eq_zero hspawns.effects thread) hspawns.backdrop rfl rfl
        (isCommand_of_spawns hspawns hwf.table ?_ rfl)
      intro activity hactivity hrole
      rcases hfresh activity hactivity with hserving | ⟨known, -, hattaching⟩
      · rw [hrole] at hserving
        cases hserving
      · rw [hrole] at hattaching
        cases hattaching
  | breakpointsSet hcommand haccepted hspawns =>
      refine commandMove_unchanged (by simp [endedCommand?])
        (by simp [begunCommand?, hcommand, resumeCommands])
        (stopsOf_eq_zero hspawns.effects thread) hspawns.backdrop rfl rfl
        (isCommand_of_spawns hspawns (hwf.table.congr rfl rfl) ?_ rfl)
      intro activity hactivity hrole
      rw [List.mem_singleton.mp (List.mem_ite_nil_right.mp hactivity).2] at hrole
      cases hrole
  | commandStarted hsets hbegun hget hspawns =>
      exact commandMove_commandStarted hwf.table hbegun hget hspawns
  | @shutDown event rest hevent hplain hsilent =>
      have hforgets : ∀ effect ∈ (shutdown session).2, effect.Within noCall :=
        within_cancel Activity.endsAtShutdown { session with isShutDown := true }
      have hstops : stopsOf thread ((shutdown session).2 ++ rest.2) = 0 := by
        rw [stopsOf_append, stopsOf_eq_zero hforgets, stopsOf_eq_zero hsilent.effects]
      refine @commandMove_quiet thread session _ (rest.1, (shutdown session).2 ++ rest.2)
        (by simp [hplain.ended]) (by simp [hplain.begun]) hstops
        (get?_of_backdrop hsilent.backdrop rfl) (.of_isShutDown ?_ fun id _ hcommand => ?_)
      · exact (congrArg Backdrop.isShutDown hsilent.backdrop).trans rfl
      · have hflag : TableOk { session with isShutDown := true } := hwf.table.congr rfl rfl
        have hcancelled : (shutdown session).1.isCommand thread id = true :=
          (isCommand_of_silent hsilent rfl id).symm.trans hcommand
        exact isCommand_of_cancel hflag _ id hcancelled
  | released =>
      exact commandMove_quiet (by simp [endedCommand?]) (by simp [begunCommand?]) rfl rfl
        (.of_eq rfl fun id _ => rfl)
  | @absent id event hfor hnone =>
      have hplain : Plain session event := plain_of_absent hfor hnone
      exact commandMove_quiet (by simp [hplain.ended]) (by simp [hplain.begun]) rfl rfl
        (.of_eq rfl fun id _ => rfl)
  | moved hfor hactivity hpolling hsyncing hplain hlocal hpresent =>
      exact commandMove_unchanged (by simp [hplain.ended]) (by simp [hplain.begun])
        (stopsOf_eq_zero hlocal.effects thread) hlocal.backdrop rfl rfl
        (isCommand_of_moved hlocal hactivity (fun next hrole => hrole) hpresent rfl)
  | attached hactivity hbegun hpaths hprelude hget hlocal hpresent =>
      refine commandMove_attached hwf.table hactivity hbegun hprelude ?_ hget hlocal hpresent
      intro activity hactivity hrole
      obtain rfl | rfl := eq_of_mem_attachPrelude hactivity <;> cases hrole
  | commandEnded hended hlocal => exact commandMove_commandEnded hended hlocal
  | @ticked id event stage out hfor hactivity hlocal =>
      have hplain : Plain session event :=
        plain_of_role hfor hactivity (by simp [Activity.role]) (by simp [Activity.role])
      exact commandMove_unchanged (by simp [hplain.ended]) (by simp [hplain.begun])
        (stopsOf_eq_zero hlocal.effects thread) hlocal.backdrop rfl rfl
        (isCommand_of_moved hlocal hactivity (fun next hrole => hrole)
          (by simp [Activity.role]) rfl)
  | paused hactivity hreply haccepted hreport hlocal =>
      exact commandMove_paused hactivity haccepted hreport hlocal
  | @synced id event stage out hfor hstage hmove =>
      have hframe := hmove.frame hwf.table hwf.syncs hstage
      have hplain : Plain session event :=
        plain_of_role hfor (syncStage?_eq_some_iff.mp hstage) (by simp [Activity.role])
          (by simp [Activity.role])
      exact commandMove_unchanged (by simp [hplain.ended]) (by simp [hplain.begun])
        (stopsOf_eq_zero hframe.effects thread) hframe.backdrop rfl rfl
        (isCommand_of_syncFrame hframe)

/-! ## The log and the context -/

/-- The log of a thread in step with its context and its commands. -/
structure Ledger (thread : Int) (log : List Milestone) (session : Session) : Prop where
  orderly : Orderly log
  /-- Whoever waits for an answer is outstanding. -/
  live : ∀ id, session.isCommand thread id = true → id ∈ outstanding log
  /-- Before a shutdown, whatever is outstanding waits for an answer, once. -/
  waiting : session.isShutDown = false → (outstanding log).Nodup ∧
    ∀ id ∈ outstanding log, session.isCommand thread id = true
  inFlight : ∀ context, session.contexts.get? thread = some context →
    context.inFlight = (outstanding log).length
  balanced : ∀ context, session.contexts.get? thread = some context →
    context.inFlight + log.countP isCompleted = log.countP isBegan
  /-- A running context has had a command since its last stop. -/
  renewed : ∀ context, session.contexts.get? thread = some context → context.running = true →
    ∃ first id rest, log = first ++ .began id :: rest ∧ .stopped ∉ rest
  fewer : log.count .stopped ≤ log.countP isBegan
  fewerRunning : ∀ context, session.contexts.get? thread = some context →
    context.running = true → log.count .stopped < log.countP isBegan

namespace Ledger

variable {thread : Int} {log : List Milestone} {session after : Session}

theorem ofConfig (config : BackendConfig) (thread : Int) : Ledger thread [] (.ofConfig config) := by
  have hidle : ∀ context, (Session.ofConfig config).contexts.get? thread = some context →
      context.running = false ∧ context.inFlight = 0 := by
    intro context hget
    have hmem := Contexts.mem_of_get? hget
    simp only [Session.ofConfig] at hmem
    cases hlayout : config.contexts with
    | single =>
        simp only [hlayout, Contexts.ofLayout, List.mem_singleton] at hmem
        simp [hmem]
    | serverAndClient =>
        simp only [hlayout, Contexts.ofLayout, List.mem_cons, List.not_mem_nil, or_false] at hmem
        rcases hmem with rfl | rfl <;> simp
  constructor
  · exact Orderly.nil
  · intro id hcommand
    simp [isCommand, Session.ofConfig, activity?] at hcommand
  · simp [outstanding]
  · intro context hget
    simp [(hidle context hget).2, outstanding]
  · intro context hget
    simp [(hidle context hget).2]
  · intro context hget hrunning
    rw [(hidle context hget).1] at hrunning
    cases hrunning
  · simp
  · intro context hget hrunning
    rw [(hidle context hget).1] at hrunning
    cases hrunning

theorem waiting_kept (hledger : Ledger thread log session)
    (hcommands : SameCommands thread (fun _ => True) session after)
    (hopen : after.isShutDown = false) :
    (outstanding log).Nodup ∧ ∀ id ∈ outstanding log, after.isCommand thread id = true := by
  obtain ⟨hnodup, hwaiting⟩ := hledger.waiting (hcommands.stillOpen hopen)
  exact ⟨hnodup, fun id hid => hcommands.kept hopen id trivial (hwaiting id hid)⟩

theorem quiet (hledger : Ledger thread log session)
    (hget : after.contexts.get? thread = session.contexts.get? thread)
    (hcommands : SameCommands thread (fun _ => True) session after) : Ledger thread log after where
  orderly := hledger.orderly
  live id hcommand := hledger.live id (hcommands.old id trivial hcommand)
  waiting hopen := hledger.waiting_kept hcommands hopen
  inFlight context hcontext := hledger.inFlight context (hget.symm.trans hcontext)
  balanced context hcontext := hledger.balanced context (hget.symm.trans hcontext)
  renewed context hcontext := hledger.renewed context (hget.symm.trans hcontext)
  fewer := hledger.fewer
  fewerRunning context hcontext := hledger.fewerRunning context (hget.symm.trans hcontext)

/-- A command that is new is outstanding beside the others. -/
theorem waiting_began {id : Nat} (hledger : Ledger thread log session)
    (hcommands : SameCommands thread (· ≠ id) session after)
    (hnew : session.isCommand thread id = false) (hlive : after.isCommand thread id = true)
    (hopen : after.isShutDown = false) :
    (outstanding log ++ [id]).Nodup ∧
      ∀ other ∈ outstanding log ++ [id], after.isCommand thread other = true := by
  obtain ⟨hnodup, hwaiting⟩ := hledger.waiting (hcommands.stillOpen hopen)
  have hout : ∀ other ∈ outstanding log, other ≠ id := by
    rintro other hother rfl
    rw [hwaiting other hother] at hnew
    cases hnew
  constructor
  · refine List.nodup_append.mpr ⟨hnodup, List.nodup_singleton id, ?_⟩
    intro other hother last hlast
    rw [List.mem_singleton.mp hlast]
    exact hout other hother
  · intro other hother
    rcases List.mem_append.mp hother with hold | hlast
    · exact hcommands.kept hopen other (hout other hold) (hwaiting other hold)
    · rw [List.mem_singleton.mp hlast]
      exact hlive

theorem began {id : Nat} {context : ExecutionContext} (hledger : Ledger thread log session)
    (hget : session.contexts.get? thread = some context)
    (hafter : after.contexts.get? thread = some context.startCommand)
    (hcommands : SameCommands thread (· ≠ id) session after)
    (hnew : session.isCommand thread id = false) (hlive : after.isCommand thread id = true) :
    Ledger thread (log ++ [.began id]) after := by
  have hstarted : ∀ found, after.contexts.get? thread = some found →
      found = context.startCommand := by
    intro found hfound
    rw [hafter, Option.some.injEq] at hfound
    exact hfound.symm
  have hfewer : (log ++ [Milestone.began id]).count .stopped <
      (log ++ [Milestone.began id]).countP isBegan := by
    simpa [isBegan, Nat.lt_succ_iff] using hledger.fewer
  constructor
  · exact hledger.orderly.snoc (by simp)
  · intro other hcommand
    rw [outstanding_snoc_began, List.mem_append, List.mem_singleton]
    by_cases hother : other = id
    · exact .inr hother
    · exact .inl (hledger.live other (hcommands.old other hother hcommand))
  · intro hopen
    rw [outstanding_snoc_began]
    exact hledger.waiting_began hcommands hnew hlive hopen
  · intro found hfound
    rw [hstarted found hfound, outstanding_snoc_began, List.length_append,
      ← hledger.inFlight context hget]
    rfl
  · intro found hfound
    have hbalanced := hledger.balanced context hget
    rw [hstarted found hfound]
    simp only [ExecutionContext.startCommand, List.countP_append, List.countP_singleton,
      isBegan, isCompleted, if_true, Bool.false_eq_true, if_false]
    omega
  · intro found hfound hrunning
    exact ⟨log, id, [], rfl, by simp⟩
  · exact hfewer.le
  · intro found hfound hrunning
    exact hfewer

theorem completed {id : Nat} (hledger : Ledger thread log session)
    (hlive : session.isCommand thread id = true)
    (hafter : after.contexts.get? thread =
      (session.contexts.get? thread).map ExecutionContext.endCommand)
    (hcommands : SameCommands thread (· ≠ id) session after)
    (hgone : after.isCommand thread id = false) :
    Ledger thread (log ++ [.completed id]) after := by
  have hmem := hledger.live id hlive
  have hpositive := List.length_pos_of_mem hmem
  have hbefore : ∀ found, after.contexts.get? thread = some found →
      ∃ context, session.contexts.get? thread = some context ∧ found = context.endCommand := by
    intro found hfound
    rw [hafter, Option.map_eq_some_iff] at hfound
    obtain ⟨context, hcontext, hsame⟩ := hfound
    exact ⟨context, hcontext, hsame.symm⟩
  constructor
  · exact hledger.orderly.snoc (by simp)
  · intro other hcommand
    have hother : other ≠ id := by
      rintro rfl
      rw [hgone] at hcommand
      cases hcommand
    rw [outstanding_snoc_completed, List.mem_erase_of_ne hother]
    exact hledger.live other (hcommands.old other hother hcommand)
  · intro hopen
    obtain ⟨hnodup, hwaiting⟩ := hledger.waiting (hcommands.stillOpen hopen)
    rw [outstanding_snoc_completed]
    refine ⟨hnodup.erase id, fun other hother => ?_⟩
    obtain ⟨hne, hold⟩ := hnodup.mem_erase_iff.mp hother
    exact hcommands.kept hopen other hne (hwaiting other hold)
  · intro found hfound
    obtain ⟨context, hcontext, rfl⟩ := hbefore found hfound
    rw [outstanding_snoc_completed, List.length_erase_of_mem hmem,
      ← hledger.inFlight context hcontext]
    rfl
  · intro found hfound
    obtain ⟨context, hcontext, rfl⟩ := hbefore found hfound
    have hbalanced := hledger.balanced context hcontext
    have hinFlight := hledger.inFlight context hcontext
    simp only [ExecutionContext.endCommand, List.countP_append, List.countP_singleton,
      isBegan, isCompleted, if_true, Bool.false_eq_true, if_false]
    omega
  · intro found hfound hrunning
    obtain ⟨context, hcontext, rfl⟩ := hbefore found hfound
    obtain ⟨first, begun, rest, rfl, hquiet⟩ := hledger.renewed context hcontext hrunning
    exact ⟨first, begun, rest ++ [.completed id], by simp, by simp [hquiet]⟩
  · simpa [isBegan] using hledger.fewer
  · intro found hfound hrunning
    obtain ⟨context, hcontext, rfl⟩ := hbefore found hfound
    simpa [isBegan] using hledger.fewerRunning context hcontext hrunning

/-- A running context had more commands than stops, so that one more stop is not too many. -/
theorem stopped {context : ExecutionContext} {state : RunState}
    (hledger : Ledger thread log session) (hget : session.contexts.get? thread = some context)
    (hrunning : context.running = true) (hidle : context.inFlight = 0)
    (hafter : after.contexts.get? thread = some (context.pauseWith state))
    (hcommands : SameCommands thread (fun _ => True) session after) :
    Ledger thread (log ++ [.stopped]) after := by
  have hnone : outstanding log = [] := by
    rw [← List.length_eq_zero_iff, ← hledger.inFlight context hget, hidle]
  have hpaused : ∀ found, after.contexts.get? thread = some found →
      found = context.pauseWith state := by
    intro found hfound
    rw [hafter, Option.some.injEq] at hfound
    exact hfound.symm
  constructor
  · exact hledger.orderly.snoc_stopped hnone (hledger.renewed context hget hrunning)
  · intro id hcommand
    rw [outstanding_snoc_stopped]
    exact hledger.live id (hcommands.old id trivial hcommand)
  · intro hopen
    rw [outstanding_snoc_stopped]
    exact hledger.waiting_kept hcommands hopen
  · intro found hfound
    rw [hpaused found hfound, outstanding_snoc_stopped, ← hledger.inFlight context hget]
    rfl
  · intro found hfound
    have hbalanced := hledger.balanced context hget
    rw [hpaused found hfound]
    simpa [isBegan, isCompleted, ExecutionContext.pauseWith] using hbalanced
  · intro found hfound hstill
    rw [hpaused found hfound] at hstill
    cases hstill
  · simpa [isBegan] using Nat.succ_le_of_lt (hledger.fewerRunning context hget hrunning)
  · intro found hfound hstill
    rw [hpaused found hfound] at hstill
    cases hstill

/-- A move of the thread keeps the log in step. -/
theorem move {new : List Milestone} (hledger : Ledger thread log session)
    (hmove : CommandMove thread session after new) : Ledger thread (log ++ new) after := by
  cases hmove with
  | quiet hget hcommands =>
      rw [List.append_nil]
      exact hledger.quiet hget hcommands
  | began hget hafter hcommands hnew hlive =>
      exact hledger.began hget hafter hcommands hnew hlive
  | completed hlive hafter hcommands hgone =>
      exact hledger.completed hlive hafter hcommands hgone
  | stopped hget hrunning hidle hafter hcommands =>
      exact hledger.stopped hget hrunning hidle hafter hcommands

/-- Before a shutdown, the commands in flight are the activities that wait for an answer. -/
theorem inFlight_eq_countP (hledger : Ledger thread log session) (htable : TableOk session)
    (hopen : session.isShutDown = false) {context : ExecutionContext}
    (hget : session.contexts.get? thread = some context) :
    context.inFlight =
      session.activities.countP fun entry => entry.2.role = .commanding thread := by
  obtain ⟨hnodup, hwaiting⟩ := hledger.waiting hopen
  have hperm : (outstanding log).Perm
      (session.idsOf fun activity => activity.role = .commanding thread) := by
    refine (List.perm_ext_iff_of_nodup hnodup (htable.nodup_idsOf _)).mpr fun id => ?_
    rw [htable.mem_idsOf_iff]
    constructor
    · intro hid
      obtain ⟨activity, hactivity, hrole⟩ := isCommand_eq_true_iff.mp (hwaiting id hid)
      exact ⟨activity, hactivity, by simpa using hrole⟩
    · rintro ⟨activity, hactivity, hrole⟩
      exact hledger.live id
        (isCommand_eq_true_iff.mpr ⟨activity, hactivity, by simpa using hrole⟩)
  rw [hledger.inFlight context hget, hperm.length_eq, length_idsOf]

end Ledger

/-! ## Steps and runs -/

section Run

variable {thread : Int} {session : Session} {log : List Milestone}

/-- The abandoned poller takes no part in commands. -/
theorem isCommand_reap (htable : TableOk session) (id : Nat) :
    (reap session).1.isCommand thread id = session.isCommand thread id := by
  rcases (reaped_reap htable).activity? id with hsame | ⟨hnone, stage, hpoll⟩
  · exact isCommand_congr hsame thread
  · simp [isCommand, hnone, hpoll, Activity.role]

theorem commandMove_step (hwf : WellFormed session) (now : Nat) (event : SessionEvent) :
    CommandMove thread session (step now event session).1
      (milestones thread session event (step now event session)) := by
  have hreaction := reaction_react hwf now event
  have hmove := hreaction.commandMove hwf thread
  have htable := (hreaction.wellFormed hwf).table
  have hreaped := reaped_reap htable
  have hstep : step now event session =
      ((reap (react now event session).1).1,
        (react now event session).2 ++ (reap (react now event session).1).2) := rfl
  have hlog : milestones thread session event (step now event session) =
      milestones thread session event (react now event session) := by
    rw [hstep, milestones, milestones, stopsOf_append, stopsOf_eq_zero hreaped.effects,
      Nat.add_zero]
  rw [hlog]
  have hget : (step now event session).1.contexts.get? thread =
      (react now event session).1.contexts.get? thread :=
    Contexts.get?_congr (congrArg Backdrop.contexts hreaped.backdrop) thread
  have hcommand : ∀ id, (step now event session).1.isCommand thread id =
      (react now event session).1.isCommand thread id := isCommand_reap htable
  have hshut : (step now event session).1.isShutDown =
      (react now event session).1.isShutDown := congrArg Backdrop.isShutDown hreaped.backdrop
  generalize milestones thread session event (react now event session) = new at hmove
  exact hmove.congr hget hcommand hshut

theorem Ledger.run (hledger : Ledger thread log session) (hwf : WellFormed session)
    (events : List (Nat × SessionEvent)) :
    Ledger thread (log ++ chronicle thread events session) (Session.run events session).1 := by
  induction events generalizing session log with
  | nil =>
      rw [chronicle, List.append_nil]
      exact hledger
  | cons event events ih =>
      have hstep := hledger.move (commandMove_step hwf event.1 event.2)
      have hrest := ih hstep (wellFormed_step hwf event.1 event.2)
      rw [List.append_assoc] at hrest
      exact hrest

/-- The ledger of a thread at the end of any run. -/
theorem ledger_run (config : BackendConfig) (events : List (Nat × SessionEvent)) (thread : Int) :
    Ledger thread (chronicle thread events (ofConfig config))
      (Session.run events (ofConfig config)).1 := by
  simpa using (Ledger.ofConfig config thread).run (WellFormed.ofConfig config) events

/-- The log has every stop that the session reports. -/
theorem count_stopped_milestones (event : SessionEvent) (out : Session × List Effect) :
    (milestones thread session event out).count .stopped = stopsOf thread out.2 := by
  have hmark : ∀ (milestone : Nat → Milestone) (command? : Option (Nat × Int)),
      (∀ id, milestone id ≠ .stopped) → (markIf thread milestone command?).count .stopped = 0 := by
    intro milestone command? hmilestone
    rw [List.count_eq_zero]
    unfold markIf
    split
    · split
      · simp [Ne.symm (hmilestone _)]
      · simp
    · simp
  rw [milestones, List.count_append, List.count_append, hmark .completed _ (by simp),
    hmark .began _ (by simp), List.count_replicate_self]
  omega

theorem count_stopped_chronicle (events : List (Nat × SessionEvent)) (session : Session) :
    (chronicle thread events session).count .stopped =
      stopsOf thread (Session.run events session).2 := by
  induction events generalizing session with
  | nil => rfl
  | cons event events ih =>
      obtain ⟨now, event⟩ := event
      rw [chronicle, List.count_append, count_stopped_milestones, ih]
      exact (stopsOf_append _ _ _).symm

end Run

/-- In every run, the stops that the editor is told of for a thread follow its commands: each has a
command begun and completed before it, and after any stop before it, no command is outstanding at
it, and there are never more stops than commands. -/
theorem stops_follow_commands (config : BackendConfig) (events : List (Nat × SessionEvent))
    (thread : Int) :
    stopsOf thread (run events (ofConfig config)).2 =
        (chronicle thread events (ofConfig config)).count .stopped ∧
      Orderly (chronicle thread events (ofConfig config)) ∧
      stopsOf thread (run events (ofConfig config)).2 ≤
        (chronicle thread events (ofConfig config)).countP isBegan := by
  have hledger := ledger_run config events thread
  have hcount := @count_stopped_chronicle thread events (ofConfig config)
  refine ⟨hcount.symm, hledger.orderly, ?_⟩
  rw [← hcount]
  exact hledger.fewer

end DebugBridge.Session
