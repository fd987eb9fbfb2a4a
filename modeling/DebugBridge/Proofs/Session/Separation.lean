import DebugBridge.Proofs.Context.Separation
import DebugBridge.Proofs.Session.Commands

/-!
# One thread at a time

An event concerns a thread if it begins or answers a command of it or tells of its state.  Every
context that an event does not concern stays as it is, and a request to go on concerns the thread
that it names.
-/

namespace DebugBridge.Session

section Step

variable {session : Session} {event : SessionEvent} {out : Session × List Effect} {thread : Int}

/-- The event begins or answers a command of the thread or tells of its state. -/
inductive Concerns (session : Session) (thread : Int) : SessionEvent → Prop
  | begins {event : SessionEvent} {id : Nat}
      (hbegun : session.begunCommand? event = some (id, thread)) : Concerns session thread event
  | ends {event : SessionEvent} {id : Nat}
      (hended : session.endedCommand? event = some (id, thread)) : Concerns session thread event
  | tells {id : Nat} {outcome : Outcome} {timer : Timer} {target : PlannedPoll}
      {others : List PlannedPoll}
      (hactivity : session.activity? id = some (.poll (.asking timer target others)))
      (htarget : target.thread = thread) : Concerns session thread (.outcome id outcome)

theorem Reaction.get?_of_not_concerns (hreaction : Reaction session event out)
    (hwf : WellFormed session) (hother : ¬ Concerns session thread event) :
    out.1.contexts.get? thread = session.contexts.get? thread := by
  cases hreaction.backdropMove hwf with
  | kept hafter => exact get?_of_backdrop hafter rfl
  | recounted hevent hcommand hafter => exact get?_of_backdrop hafter rfl
  | breakpointsSet haccepted hafter => exact get?_of_backdrop hafter rfl
  | @commandStarted id started hbegun hafter =>
      have hthread : thread ≠ started := by
        rintro rfl
        exact hother (.begins hbegun)
      have hstarted := (Contexts.get?_startCommand session.contexts started thread).trans
        (if_neg hthread)
      exact (get?_of_backdrop hafter rfl).trans hstarted
  | shutDown hevent hended hafter => exact get?_of_backdrop hafter rfl
  | released hafter => exact get?_of_backdrop hafter rfl
  | @attached id started paths hbegun hpaths hafter =>
      have hthread : thread ≠ started := by
        rintro rfl
        exact hother (.begins hbegun)
      have hstarted := (Contexts.get?_startCommand session.contexts started thread).trans
        (if_neg hthread)
      exact (get?_of_backdrop hafter rfl).trans hstarted
  | @commandEnded id ended hended hafter =>
      have hthread : thread ≠ ended := by
        rintro rfl
        exact hother (.ends hended)
      have hdone := (Contexts.get?_endCommand session.contexts ended thread).trans
        (if_neg hthread)
      exact (get?_of_backdrop hafter rfl).trans hdone
  | @paused id outcome timer target others state hevent hactivity hafter =>
      subst hevent
      have hthread : thread ≠ target.thread := fun hsame =>
        hother (.tells hactivity hsame.symm)
      have hreported := (Contexts.get?_applyPoll session.contexts target state thread).trans
        (if_neg fun hall => hthread hall.2)
      exact (get?_of_backdrop hafter rfl).trans hreported

/-- The context of a thread stays as it is at events that do not concern it. -/
theorem get?_step_of_not_concerns (hwf : WellFormed session) (now : Nat)
    (hother : ¬ Concerns session thread event) :
    (step now event session).1.contexts.get? thread = session.contexts.get? thread := by
  have hreaction := reaction_react hwf now event
  have hreaped := reaped_reap (hreaction.wellFormed hwf).table
  have hreacted := hreaction.get?_of_not_concerns hwf hother
  have hreap : (step now event session).1.contexts.get? thread =
      (react now event session).1.contexts.get? thread :=
    Contexts.get?_congr (congrArg Backdrop.contexts hreaped.backdrop) thread
  exact hreap.trans hreacted

/-- A request concerns no thread but the one that it names. -/
theorem resumedThread?_of_concerns {request : Request}
    (hconcerns : Concerns session thread (.request request)) :
    session.resumedThread? request = some thread := by
  cases hconcerns with
  | begins hbegun =>
      rw [begunCommand?] at hbegun
      split at hbegun
      · obtain ⟨named, hnamed, hsame⟩ := Option.map_eq_some_iff.mp hbegun
        rw [hnamed, (Prod.mk.inj hsame).2]
      · cases hbegun
  | ends hended => cases hended

/-- A command concerns its own thread only. -/
theorem eq_of_concerns {id : Nat} {request : Request} {resumed : Int} {suffix : String}
    {mode : ResumeMode} {stage : CallStage}
    (hactivity : session.activity? id = some (.resume request resumed suffix mode stage))
    (hfor : event.IsFor id) (hconcerns : Concerns session thread event) : resumed = thread := by
  cases hconcerns with
  | begins hbegun =>
      have hnone : session.begunCommand? event = none := by
        refine begunCommand?_eq_none hfor fun found started hfound hrole => ?_
        rw [hactivity, Option.some.injEq] at hfound
        rw [← hfound] at hrole
        cases hrole
      rw [hnone] at hbegun
      cases hbegun
  | ends hended =>
      obtain ⟨outcome, found, rfl, hfound, hrole⟩ := endedCommand?_eq_some hended
      rcases hfor with hwake | ⟨_, houtcome⟩
      · cases hwake
      · cases houtcome
        rw [hactivity, Option.some.injEq] at hfound
        rw [← hfound] at hrole
        exact Role.commanding.inj hrole
  | tells hpoll htarget =>
      rcases hfor with hwake | ⟨_, houtcome⟩
      · cases hwake
      · cases houtcome
        rw [hactivity] at hpoll
        cases hpoll

end Step

section Runs

open Contexts

/-- Contexts do not interfere.  In every history of the store, leaving out the calls for one thread
leaves another its context and all that it is told; calls for a thread that there is not do nothing;
and only the order of calls for one thread, among them those for no thread, matters.  In every run
of a session, a request to go on, and all that comes of the command it begins, leaves every context
alone but the one of the thread that it names. -/
theorem contexts_do_not_interfere (layout : ContextLayout) :
    (∀ (history : List StoreEvent) (thread gone : Int), gone ≠ thread →
      ((ofLayout layout).afterAll (withoutThread gone history)).get? thread =
          ((ofLayout layout).afterAll history).get? thread ∧
        answersAbout thread (withoutThread gone history) (ofLayout layout) =
          answersAbout thread history (ofLayout layout)) ∧
    (∀ (history : List StoreEvent) (thread : Int), thread ∉ (ofLayout layout).threads →
      ((ofLayout layout).afterAll history).startCommand thread =
          (none, (ofLayout layout).afterAll history) ∧
        ((ofLayout layout).afterAll history).endCommand thread =
          (ofLayout layout).afterAll history) ∧
    (∀ first second : List StoreEvent,
      (∀ thread, first.filter (·.regards thread) = second.filter (·.regards thread)) →
        (ofLayout layout).afterAll first = (ofLayout layout).afterAll second ∧
          ∀ thread, answersAbout thread first (ofLayout layout) =
            answersAbout thread second (ofLayout layout)) ∧
    ∀ (config : BackendConfig) (events : List (Nat × SessionEvent)) (now : Nat) (other : Int),
      (∀ request, (run events (ofConfig config)).1.resumedThread? request ≠ some other →
        (step now (.request request) (run events (ofConfig config)).1).1.contexts.get? other =
          (run events (ofConfig config)).1.contexts.get? other) ∧
      ∀ id event request thread suffix mode stage,
        (run events (ofConfig config)).1.activity? id =
            some (.resume request thread suffix mode stage) →
          event.IsFor id → thread ≠ other →
            (step now event (run events (ofConfig config)).1).1.contexts.get? other =
              (run events (ofConfig config)).1.contexts.get? other := by
  have hnodup := nodup_threads_ofLayout layout
  refine ⟨fun history thread gone hother => ?_, fun history thread hunknown => ?_,
    fun first second hsame => afterAll_eq_of_regards hnodup hsame,
    fun config events now other => ?_⟩
  · obtain ⟨halike, hanswers⟩ := alike_withoutThread hnodup hother history
    exact ⟨halike.get?.symm, hanswers⟩
  · rw [← threads_afterAll (ofLayout layout) history, ← get?_eq_none_iff] at hunknown
    exact ⟨startCommand_of_unknown hunknown, endCommand_of_unknown hunknown⟩
  · have hwf := wellFormed_run (WellFormed.ofConfig config) events
    refine ⟨fun request hnamed => ?_, fun id event request thread suffix mode stage hactivity hfor
      hother => ?_⟩
    · exact get?_step_of_not_concerns hwf now fun hconcerns =>
        hnamed (resumedThread?_of_concerns hconcerns)
    · exact get?_step_of_not_concerns hwf now fun hconcerns =>
        hother (eq_of_concerns hactivity hfor hconcerns)

/-- Commands of both contexts overlap. -/
def overlap : List StoreEvent := [
  .commandStarted serverThread, .commandStarted clientThread, .pollsPlanned,
  .commandEnded clientThread, .commandEnded serverThread]

/-- The same calls, those of the client first. -/
def overlapSwapped : List StoreEvent := [
  .commandStarted clientThread, .commandStarted serverThread, .pollsPlanned,
  .commandEnded serverThread, .commandEnded clientThread]

def continueServer : Request where
  command := "continue"
  arguments := .ofMembers [("threadId", .int serverThread)]

theorem contexts_do_not_interfere_overlapping :
    answersAbout serverThread (withoutThread clientThread overlap) (ofLayout .serverAndClient) =
        answersAbout serverThread overlap (ofLayout .serverAndClient) ∧
      ((ofLayout .serverAndClient).afterAll overlap).startCommand 99 =
        (none, (ofLayout .serverAndClient).afterAll overlap) ∧
      (ofLayout .serverAndClient).afterAll overlap =
        (ofLayout .serverAndClient).afterAll overlapSwapped ∧
      (step 0 (.request continueServer) (ofConfig {})).1.contexts.get? clientThread =
        (ofConfig {}).contexts.get? clientThread ∧
      (step 2 (.outcome 0 (.ok { body := [] }))
        (run [(0, .request continueServer), (1, .wake 0)] (ofConfig {})).1).1.contexts.get?
          clientThread =
        (run [(0, .request continueServer), (1, .wake 0)] (ofConfig {})).1.contexts.get?
          clientThread := by
  obtain ⟨hwithout, hunknown, horder, hsession⟩ := contexts_do_not_interfere .serverAndClient
  have hsame : ∀ thread, overlap.filter (·.regards thread) =
      overlapSwapped.filter (·.regards thread) := by
    intro thread
    by_cases hserver : serverThread = thread
    · subst hserver
      decide
    · by_cases hclient : clientThread = thread
      · subst hclient
        decide
      · simp [overlap, overlapSwapped, StoreEvent.regards, StoreEvent.addressee?, hserver, hclient]
  have hcalling : (run [(0, .request continueServer), (1, .wake 0)] (ofConfig {})).1.activity? 0 =
      some (.resume continueServer serverThread "_server" .resume .calling) := by
    rfl
  refine ⟨(hwithout overlap serverThread clientThread (by decide)).2,
    (hunknown overlap 99 (by decide)).1, (horder overlap overlapSwapped hsame).1,
    (hsession {} [] 0 clientThread).1 continueServer (by decide +kernel), ?_⟩
  exact (hsession {} _ 2 clientThread).2 0 _ _ _ _ _ _ hcalling (.inr ⟨_, rfl⟩) (by decide)

end Runs

end DebugBridge.Session
