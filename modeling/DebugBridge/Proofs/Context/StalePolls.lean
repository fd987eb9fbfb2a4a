import DebugBridge.Proofs.Context.Store
import Mathlib.Data.Finset.Card
import Mathlib.Tactic.Common

/-!
# Stale polls

A history is any list of calls of the store.  The epoch of a context counts the commands begun and
ended in the history, so that a planned poll and its context agree on the epoch only while no
command moves.  The main statement says of every history that an accepted poll was planned, and
is applied, with no command outstanding and none begun or ended between.
-/

namespace DebugBridge.Contexts

deriving instance DecidableEq for RunState

/-- A call of the store. -/
inductive StoreEvent
  | commandStarted (thread : Int)
  | commandEnded (thread : Int)
  | pollsPlanned
  | pollApplied (target : PlannedPoll) (state : RunState)
  | threadShown (thread : Int)
deriving DecidableEq

/-- The event begins or ends a command of the thread. -/
def StoreEvent.isCommandOf (thread : Int) : StoreEvent → Bool
  | .commandStarted other => other = thread
  | .commandEnded other => other = thread
  | _ => false

def after (store : Contexts) : StoreEvent → Contexts
  | .commandStarted thread => (store.startCommand thread).2
  | .commandEnded thread => store.endCommand thread
  | .pollsPlanned => store
  | .pollApplied target state => (store.applyPoll target state).2
  | .threadShown thread => store.showThread thread

/-- The store after a history. -/
def afterAll (store : Contexts) (history : List StoreEvent) : Contexts := history.foldl after store

theorem afterAll_append (store : Contexts) (first second : List StoreEvent) :
    store.afterAll (first ++ second) = (store.afterAll first).afterAll second :=
  List.foldl_append

theorem threads_after (store : Contexts) (event : StoreEvent) :
    (store.after event).threads = store.threads := by
  cases event with
  | commandStarted thread => exact threads_startCommand store thread
  | commandEnded thread => exact threads_endCommand store thread
  | pollsPlanned => rfl
  | pollApplied target state => exact threads_applyPoll store target state
  | threadShown thread => rfl

theorem threads_afterAll (store : Contexts) (history : List StoreEvent) :
    (store.afterAll history).threads = store.threads := by
  induction history generalizing store with
  | nil => rfl
  | cons event history ih => exact (ih (store.after event)).trans (threads_after store event)

/-! ## The epoch counts the commands -/

/-- One event moves the epoch of a context if it is a command of its thread, and changes the number
of outstanding commands only then. -/
theorem epoch_after {store : Contexts} {thread : Int} {context : ExecutionContext}
    (hget : store.get? thread = some context) (event : StoreEvent) :
    ∃ next, (store.after event).get? thread = some next ∧
      next.epoch = context.epoch + (if event.isCommandOf thread then 1 else 0) ∧
      (event.isCommandOf thread = false → next.inFlight = context.inFlight) := by
  cases event with
  | commandStarted other =>
      by_cases hsame : thread = other
      · refine ⟨context.startCommand, ?_, ?_, ?_⟩
        · rw [after, get?_startCommand, if_pos hsame, hget, Option.map_some]
        · simp [StoreEvent.isCommandOf, hsame, ExecutionContext.startCommand]
        · simp [StoreEvent.isCommandOf, hsame]
      · refine ⟨context, ?_, ?_, fun _ => rfl⟩
        · rw [after, get?_startCommand, if_neg hsame, hget]
        · simp [StoreEvent.isCommandOf, Ne.symm hsame]
  | commandEnded other =>
      by_cases hsame : thread = other
      · refine ⟨context.endCommand, ?_, ?_, ?_⟩
        · rw [after, get?_endCommand, if_pos hsame, hget, Option.map_some]
        · simp [StoreEvent.isCommandOf, hsame, ExecutionContext.endCommand]
        · simp [StoreEvent.isCommandOf, hsame]
      · refine ⟨context, ?_, ?_, fun _ => rfl⟩
        · rw [after, get?_endCommand, if_neg hsame, hget]
        · simp [StoreEvent.isCommandOf, Ne.symm hsame]
  | pollsPlanned => exact ⟨context, hget, rfl, fun _ => rfl⟩
  | pollApplied target state =>
      rw [after, get?_applyPoll, hget]
      split
      · exact ⟨context.pauseWith state, rfl, rfl, fun _ => rfl⟩
      · exact ⟨context, rfl, rfl, fun _ => rfl⟩
  | threadShown other => exact ⟨context, hget, rfl, fun _ => rfl⟩

/-- The epoch of a context grows by the number of commands begun or ended in a history; without
any, as many commands are outstanding as before. -/
theorem epoch_afterAll {store : Contexts} {thread : Int} {context : ExecutionContext}
    (hget : store.get? thread = some context) (history : List StoreEvent) :
    ∃ last, (store.afterAll history).get? thread = some last ∧
      last.epoch = context.epoch + history.countP (·.isCommandOf thread) ∧
      (history.countP (·.isCommandOf thread) = 0 → last.inFlight = context.inFlight) := by
  induction history generalizing store context with
  | nil => exact ⟨context, hget, rfl, fun _ => rfl⟩
  | cons event history ih =>
      obtain ⟨next, hnext, hepoch, hinFlight⟩ := epoch_after hget event
      obtain ⟨last, hlast, hlastEpoch, hlastInFlight⟩ := ih hnext
      refine ⟨last, hlast, ?_, ?_⟩
      · rw [hlastEpoch, hepoch, List.countP_cons]
        omega
      · intro hnone
        rw [List.countP_cons] at hnone
        have hevent : event.isCommandOf thread = false := by
          by_contra hcommand
          simp [hcommand] at hnone
        rw [hlastInFlight (by omega), hinFlight hevent]

/-! ## Commands begun and ended -/

/-- The positions before `bound` at which an event stands in a history. -/
def positionsOf (event : StoreEvent) (history : List StoreEvent) (bound : ℕ) : Finset ℕ :=
  (Finset.range bound).filter fun position => history[position]? = some event

theorem mem_positionsOf_iff {event : StoreEvent} {history : List StoreEvent}
    {bound position : ℕ} :
    position ∈ positionsOf event history bound ↔
      position < bound ∧ history[position]? = some event := by
  simp [positionsOf]

theorem card_positionsOf_succ (event : StoreEvent) (history : List StoreEvent) (bound : ℕ) :
    (positionsOf event history (bound + 1)).card =
      (positionsOf event history bound).card +
        (if history[bound]? = some event then 1 else 0) := by
  unfold positionsOf
  rw [Finset.range_add_one, Finset.filter_insert]
  split
  · rw [Finset.card_insert_of_notMem (by simp)]
  · rfl

/-- One event leaves at most as many commands unaccounted for as there were. -/
theorem inFlight_after {store : Contexts} {thread : Int} {context : ExecutionContext}
    (hget : store.get? thread = some context) (event : StoreEvent) :
    ∃ next, (store.after event).get? thread = some next ∧
      context.inFlight + (if event = .commandStarted thread then 1 else 0) ≤
        next.inFlight + (if event = .commandEnded thread then 1 else 0) := by
  cases event with
  | commandStarted other =>
      by_cases hsame : thread = other
      · refine ⟨context.startCommand, ?_, ?_⟩
        · rw [after, get?_startCommand, if_pos hsame, hget, Option.map_some]
        · simp [hsame, ExecutionContext.startCommand]
      · refine ⟨context, ?_, ?_⟩
        · rw [after, get?_startCommand, if_neg hsame, hget]
        · simp [Ne.symm hsame]
  | commandEnded other =>
      by_cases hsame : thread = other
      · refine ⟨context.endCommand, ?_, ?_⟩
        · rw [after, get?_endCommand, if_pos hsame, hget, Option.map_some]
        · simp only [hsame, ExecutionContext.endCommand, reduceCtorEq, if_true, if_false]
          omega
      · refine ⟨context, ?_, ?_⟩
        · rw [after, get?_endCommand, if_neg hsame, hget]
        · simp [Ne.symm hsame]
  | pollsPlanned => exact ⟨context, hget, by simp⟩
  | pollApplied target state =>
      rw [after, get?_applyPoll, hget]
      split
      · exact ⟨context.pauseWith state, rfl, by simp [ExecutionContext.pauseWith]⟩
      · exact ⟨context, rfl, by simp⟩
  | threadShown other => exact ⟨context, hget, by simp⟩

/-- Of the commands that a history begins, at least all but the outstanding ones are ended in it. -/
theorem card_started_le {store : Contexts} {thread : Int} {context : ExecutionContext}
    (hget : store.get? thread = some context) (history : List StoreEvent) :
    ∀ bound ≤ history.length, ∃ last,
      (store.afterAll (history.take bound)).get? thread = some last ∧
      (positionsOf (.commandStarted thread) history bound).card ≤
        last.inFlight + (positionsOf (.commandEnded thread) history bound).card := by
  intro bound hbound
  induction bound with
  | zero => exact ⟨context, by simpa [afterAll] using hget, by simp [positionsOf]⟩
  | succ bound ih =>
      obtain ⟨last, hlast, hcard⟩ := ih (by omega)
      have hevent : history[bound]? = some history[bound] := List.getElem?_eq_getElem (by omega)
      obtain ⟨next, hnext, hmoved⟩ := inFlight_after hlast history[bound]
      refine ⟨next, ?_, ?_⟩
      · rw [List.take_succ_eq_append_getElem (by omega), afterAll_append]
        exact hnext
      · rw [card_positionsOf_succ, card_positionsOf_succ, hevent]
        simp only [Option.some.injEq]
        omega

/-- Every end of a command of the thread belongs to one earlier beginning of its own. -/
structure Matching (history : List StoreEvent) (thread : Int) where
  begunAt : ℕ → ℕ
  begunAt_lt : ∀ ended, history[ended]? = some (.commandEnded thread) → begunAt ended < ended
  begunAt_starts : ∀ ended, history[ended]? = some (.commandEnded thread) →
    history[begunAt ended]? = some (.commandStarted thread)
  begunAt_injective : ∀ ended other, history[ended]? = some (.commandEnded thread) →
    history[other]? = some (.commandEnded thread) → begunAt ended = begunAt other → ended = other

/-- With no command outstanding, every command begun so far has its end in the history. -/
theorem Matching.exists_ended {store : Contexts} {history : List StoreEvent} {thread : Int}
    (ends : Matching history thread) {bound : ℕ} (hbound : bound ≤ history.length)
    {context : ExecutionContext} (hfirst : (store.get? thread).isSome)
    (hget : (store.afterAll (history.take bound)).get? thread = some context)
    (hidle : context.inFlight = 0) {start : ℕ} (hstart : start < bound)
    (hstarts : history[start]? = some (.commandStarted thread)) :
    ∃ ended < bound, history[ended]? = some (.commandEnded thread) ∧
      ends.begunAt ended = start := by
  obtain ⟨first, hfirst⟩ := Option.isSome_iff_exists.mp hfirst
  obtain ⟨last, hlast, hcard⟩ := card_started_le hfirst history bound hbound
  rw [hget, Option.some.injEq] at hlast
  rw [← hlast, hidle, Nat.zero_add] at hcard
  -- As many ends as beginnings: an injection from the ends reaches every beginning.
  obtain ⟨ended, hended, hbegun⟩ := Finset.surj_on_of_inj_on_of_card_le
    (fun ended _ => ends.begunAt ended)
    (fun ended hended => by
      rw [mem_positionsOf_iff] at hended ⊢
      exact ⟨(ends.begunAt_lt ended hended.2).trans hended.1, ends.begunAt_starts ended hended.2⟩)
    (fun ended other hended hother => ends.begunAt_injective ended other
      (mem_positionsOf_iff.mp hended).2 (mem_positionsOf_iff.mp hother).2)
    hcard start (mem_positionsOf_iff.mpr ⟨hstart, hstarts⟩)
  rw [mem_positionsOf_iff] at hended
  exact ⟨ended, hended.1, hended.2, hbegun.symm⟩

/-! ## Accepted polls are fresh -/

/-- The thread has a context that runs, with no command outstanding. -/
def RunsIdle (store : Contexts) (thread : Int) : Prop :=
  ∃ context, store.get? thread = some context ∧ context.running = true ∧ context.inFlight = 0

/-- In every history, an accepted poll result tells of a pause, and between the planning of the poll
and its acceptance no command of the thread begins or ends and none is outstanding.  Where every
end of a command has its beginning, each command begun before the acceptance has ended before the
poll was planned. -/
theorem accepted_poll_fresh (layout : ContextLayout) (before between : List StoreEvent)
    (target : PlannedPoll) (state : RunState)
    (hplanned : target ∈ ((ofLayout layout).afterAll before).plannedPolls)
    (haccepted : (((ofLayout layout).afterAll (before ++ .pollsPlanned :: between)).applyPoll
      target state).1 = true) :
    state.mode = .paused ∧
      (∀ event ∈ between, event.isCommandOf target.thread = false) ∧
      ((ofLayout layout).afterAll before).RunsIdle target.thread ∧
      ((ofLayout layout).afterAll (before ++ .pollsPlanned :: between)).RunsIdle target.thread ∧
      ∀ ends : Matching (before ++ .pollsPlanned :: between) target.thread, ∀ start,
        (before ++ .pollsPlanned :: between)[start]? = some (.commandStarted target.thread) →
          start < before.length ∧ ∃ ended < before.length,
            before[ended]? = some (.commandEnded target.thread) ∧
              ends.begunAt ended = start := by
  obtain ⟨planned, hmem, hrunning, htarget⟩ := mem_plannedPolls_iff.mp hplanned
  have hnodup : ((ofLayout layout).afterAll before).threads.Nodup := by
    rw [threads_afterAll]
    exact nodup_threads_ofLayout layout
  have hplannedGet : ((ofLayout layout).afterAll before).get? target.thread = some planned := by
    rw [htarget]
    exact get?_of_mem hnodup hmem
  obtain ⟨accepted, hacceptedGet, hfresh⟩ := applyPoll_fst_eq_true_iff.mp haccepted
  obtain ⟨hpaused, hacceptedRuns, hidle, hepoch⟩ := isFreshPause_eq_true_iff.mp hfresh
  -- The planned epoch is that of the context, which counts every command since.
  obtain ⟨last, hlast, hlastEpoch, hlastInFlight⟩ :=
    epoch_afterAll hplannedGet (.pollsPlanned :: between)
  rw [← afterAll_append, hacceptedGet, Option.some.injEq] at hlast
  subst hlast
  have hnone : (StoreEvent.pollsPlanned :: between).countP (·.isCommandOf target.thread) = 0 := by
    have hplannedEpoch : target.epoch = planned.epoch := by rw [htarget]
    omega
  have hplannedIdle : planned.inFlight = 0 := by rw [← hlastInFlight hnone, hidle]
  have hquiet : ∀ event ∈ between, event.isCommandOf target.thread = false := by
    intro event hevent
    simpa using List.countP_eq_zero.mp hnone event (List.mem_cons_of_mem _ hevent)
  refine ⟨hpaused, hquiet, ⟨planned, hplannedGet, hrunning, hplannedIdle⟩,
    ⟨accepted, hacceptedGet, hacceptedRuns, hidle⟩, ?_⟩
  intro ends start hstarts
  have hstart : start < before.length := by
    by_contra hlate
    rw [List.getElem?_append_right (by omega)] at hstarts
    rcases List.mem_cons.mp (List.mem_of_getElem? hstarts) with hplan | hcommand
    · cases hplan
    · simpa [StoreEvent.isCommandOf] using hquiet _ hcommand
  have hfirst : ((ofLayout layout).get? target.thread).isSome := by
    have hthread : target.thread ∈ (ofLayout layout).threads := by
      rw [← threads_afterAll (ofLayout layout) before, htarget]
      exact List.mem_map_of_mem hmem
    obtain ⟨context, hcontext, hsame⟩ := List.mem_map.mp hthread
    rw [← hsame, get?_of_mem (nodup_threads_ofLayout layout) hcontext]
    rfl
  obtain ⟨ended, hended, hends, hbegun⟩ := ends.exists_ended
    (by rw [List.length_append]; omega) hfirst
    (by rw [List.take_left]; exact hplannedGet) hplannedIdle hstart hstarts
  rw [List.getElem?_append_left hended] at hends
  exact ⟨hstart, ended, hended, hends, hbegun⟩

/-- Commands of both contexts overlap; the one of the server ends before the poll is planned, the
one of the client only after. -/
def overlapBefore : List StoreEvent :=
  [.commandStarted clientThread, .commandStarted serverThread, .commandEnded serverThread]

def overlapBetween : List StoreEvent := [.commandEnded clientThread, .threadShown clientThread]

theorem end_of_overlap (ended : ℕ)
    (hended : (overlapBefore ++ .pollsPlanned :: overlapBetween)[ended]? =
      some (.commandEnded serverThread)) : ended = 2 := by
  have hends : ∀ position < 6,
      (overlapBefore ++ .pollsPlanned :: overlapBetween)[position]? =
        some (.commandEnded serverThread) → position = 2 := by
    decide
  exact hends ended (List.getElem?_eq_some_iff.mp hended).1 hended

/-- The one end of a server command belongs to the beginning right before it. -/
def overlapMatching :
    Matching (overlapBefore ++ .pollsPlanned :: overlapBetween) serverThread where
  begunAt _ := 1
  begunAt_lt ended hended := by
    rw [end_of_overlap ended hended]
    decide
  begunAt_starts _ _ := rfl
  begunAt_injective ended other hended hother _ := by
    rw [end_of_overlap ended hended, end_of_overlap other hother]

theorem accepted_poll_fresh_overlapping :
    (∀ event ∈ overlapBetween, event.isCommandOf serverThread = false) ∧
      ((ofLayout .serverAndClient).afterAll overlapBefore).RunsIdle serverThread ∧
      ∃ ended < 3, overlapBefore[ended]? = some (.commandEnded serverThread) ∧
        overlapMatching.begunAt ended = 1 := by
  obtain ⟨-, hquiet, hidle, -, hmatched⟩ :=
    accepted_poll_fresh .serverAndClient overlapBefore overlapBetween
      { thread := serverThread, suffix := "_server", epoch := 2 } { mode := .paused }
      (by decide) (by decide)
  exact ⟨hquiet, hidle, (hmatched overlapMatching 1 rfl).2⟩

end DebugBridge.Contexts
