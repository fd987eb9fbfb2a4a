import DebugBridge.Proofs.Backend.Replies
import DebugBridge.Proofs.Session.Addresses
import DebugBridge.Proofs.Session.Journal
import DebugBridge.Proofs.Session.Polling

/-!
# Pauses of a thread

Each stop that is reported of a thread comes with the reply that told of it.  What the context of
the thread shows is the last of these replies: a stop replaces all of it, and nothing else changes
any of it.
-/

namespace DebugBridge

theorem ExecutionContext.Shows.variableMap {context : ExecutionContext} {state : RunState}
    (hshows : context.Shows state) (kind : Scope) :
    context.variableMap kind = state.variableMap kind := by
  cases kind with
  | locals => exact hshows.localVariables
  | closure => exact hshows.upvalueVariables
  | globals => exact hshows.globalVariables

namespace Session

/-- The replies for which a step reports a stop of the thread. -/
def pausesIn (thread : Int) (session : Session) (now : Nat) (event : SessionEvent) :
    List RunState :=
  if stopsOf thread (step now event session).2 = 0 then []
  else (session.polledState? event).toList.map (·.2)

/-- The replies that the stops of a thread came with over a run. -/
def pauses (thread : Int) : List (Nat × SessionEvent) → Session → List RunState :=
  journal (pausesIn thread)

/-- The reply that the last stop of the thread came with, and nothing at all before the first. -/
def lastPause (thread : Int) (events : List (Nat × SessionEvent)) (session : Session) : RunState :=
  (pauses thread events session).getLast?.getD {}

section Steps

variable {thread : Int} {session : Session} {event : SessionEvent} {context : ExecutionContext}
variable {state : RunState}

theorem shows_pauseWith (context : ExecutionContext) (state : RunState) :
    (context.pauseWith state).Shows state := ⟨rfl, rfl, rfl, rfl, rfl⟩

/-- A stop replaces all that the context of its thread shows. -/
theorem Pauses.shows {out : Session × List Effect} {target : PlannedPoll}
    (hpauses : Pauses session event out target state) :
    ∃ last, out.1.contexts.get? target.thread = some last ∧ last.Shows state := by
  obtain ⟨context, hget, -⟩ := Contexts.applyPoll_fst_eq_true_iff.mp hpauses.accepted
  refine ⟨context.pauseWith state, ?_, shows_pauseWith context state⟩
  rw [Contexts.get?_congr hpauses.contexts, Contexts.get?_applyPoll,
    if_pos ⟨hpauses.accepted, rfl⟩, hget, Option.map_some]

/-- A step without a stop of the thread leaves what its context shows. -/
theorem shows_step (hwf : WellFormed session) {now : Nat}
    (hquiet : stopsOf thread (step now event session).2 = 0)
    (hget : session.contexts.get? thread = some context) (hshows : context.Shows state) :
    ∃ last, (step now event session).1.contexts.get? thread = some last ∧ last.Shows state := by
  refine (commandMove_step hwf now event).shows ?_ hget hshows
  rw [← List.count_eq_zero, count_stopped_milestones, hquiet]

theorem pausesIn_of_pauses {now : Nat} {target : PlannedPoll}
    (hpauses : Pauses session event (step now event session) target state) :
    pausesIn target.thread session now event = [state] := by
  rw [pausesIn, hpauses.stops, if_pos rfl, hpauses.polled]
  rfl

/-- Every stop comes with one reply. -/
theorem length_pausesIn (hwf : WellFormed session) (now : Nat) (event : SessionEvent) :
    (pausesIn thread session now event).length = stopsOf thread (step now event session).2 := by
  by_cases hquiet : stopsOf thread (step now event session).2 = 0
  · rw [pausesIn, if_pos hquiet, hquiet]
    rfl
  · obtain ⟨target, state, hpauses, rfl⟩ := pauses_of_stop_step hwf hquiet
    rw [pausesIn_of_pauses hpauses, hpauses.stops, if_pos rfl]
    rfl

end Steps

section Runs

variable {thread : Int} {config : BackendConfig} {events : List (Nat × SessionEvent)}

theorem length_pauses (config : BackendConfig) (events : List (Nat × SessionEvent))
    (thread : Int) :
    (pauses thread events (ofConfig config)).length =
      stopsOf thread (run events (ofConfig config)).2 := by
  induction events using List.reverseRecOn with
  | nil => rfl
  | append_singleton events entry ih =>
      have hwf := wellFormed_run (WellFormed.ofConfig config) events
      rw [pauses, journal_snoc, List.length_append, length_pausesIn hwf, run_snoc, stopsOf_append]
      exact congrArg (· + _) ih

theorem shows_ofLayout {layout : ContextLayout} {context : ExecutionContext}
    (hget : (Contexts.ofLayout layout).get? thread = some context) : context.Shows {} := by
  have hmem := Contexts.mem_of_get? hget
  cases layout with
  | single =>
      obtain rfl := List.mem_singleton.mp hmem
      exact ⟨rfl, rfl, rfl, rfl, rfl⟩
  | serverAndClient =>
      rcases List.mem_pair.mp hmem with rfl | rfl <;> exact ⟨rfl, rfl, rfl, rfl, rfl⟩

/-- Every context shows the reply that the last stop of its thread came with. -/
theorem shows_lastPause {context : ExecutionContext}
    (hget : (run events (ofConfig config)).1.contexts.get? thread = some context) :
    context.Shows (lastPause thread events (ofConfig config)) := by
  induction events using List.reverseRecOn generalizing context with
  | nil => exact shows_ofLayout hget
  | append_singleton events entry ih =>
      obtain ⟨now, event⟩ := entry
      have hwf := wellFormed_run (WellFormed.ofConfig config) events
      rw [run_snoc] at hget
      by_cases hquiet : stopsOf thread (step now event (run events (ofConfig config)).1).2 = 0
      · have hsame : lastPause thread (events ++ [(now, event)]) (ofConfig config) =
            lastPause thread events (ofConfig config) := by
          rw [lastPause, pauses, journal_snoc, pausesIn, if_pos hquiet, List.append_nil]
          rfl
        -- The step keeps the context of the thread, so there was one before.
        cases hbefore : (run events (ofConfig config)).1.contexts.get? thread with
        | none =>
            have hkept := @address?_step _ hwf now event thread
            simp [Contexts.address?, hbefore, hget] at hkept
        | some before =>
            obtain ⟨last, hlast, hshows⟩ := shows_step hwf hquiet hbefore (ih hbefore)
            rw [hget, Option.some.injEq] at hlast
            rw [hsame, hlast]
            exact hshows
      · obtain ⟨target, state, hpauses, rfl⟩ := pauses_of_stop_step hwf hquiet
        obtain ⟨last, hlast, hshows⟩ := hpauses.shows
        have hstate : lastPause target.thread (events ++ [(now, event)]) (ofConfig config) =
            state := by
          rw [lastPause, pauses, journal_snoc, pausesIn_of_pauses hpauses,
            List.getLast?_append_of_ne_nil _ (List.cons_ne_nil state [])]
          rfl
        rw [hget, Option.some.injEq] at hlast
        rw [hstate, hlast]
        exact hshows

/-- What a stop comes with is a reply that the poller got. -/
theorem polled_of_mem_pauses {state : RunState}
    (hstate : state ∈ pauses thread events (ofConfig config)) :
    ∃ earlier now event later target, events = earlier ++ (now, event) :: later ∧
      (run earlier (ofConfig config)).1.polledState? event = some (target, state) := by
  obtain ⟨earlier, now, event, later, hsplit, hshown⟩ := exists_of_mem_journal hstate
  rw [pausesIn] at hshown
  split at hshown
  · cases hshown
  · obtain ⟨⟨target, found⟩, hpolled, rfl⟩ := List.mem_map.mp hshown
    exact ⟨earlier, now, event, later, target, hsplit, Option.mem_toList.mp hpolled⟩

/-- The variables of every pause are in order. -/
theorem proper_lastPause (thread : Int) (events : List (Nat × SessionEvent))
    (config : BackendConfig) : (lastPause thread events (ofConfig config)).Proper := by
  unfold lastPause
  cases hlast : (pauses thread events (ofConfig config)).getLast? with
  | none => exact RunState.proper_default
  | some state =>
      obtain ⟨earlier, now, event, later, target, -, hpolled⟩ :=
        polled_of_mem_pauses (List.mem_of_getLast? hlast)
      obtain ⟨id, outcome, timer, others, -, -, hreply⟩ := polledState?_eq_some hpolled
      exact BackendClient.proper_of_runState hreply

end Runs

end Session

end DebugBridge
