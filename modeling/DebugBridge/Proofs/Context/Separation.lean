import DebugBridge.Proofs.Context.StalePolls

/-!
# Contexts apart

A call that is for one thread is not seen through another.  What a history leaves of the context of
a thread, and all that it tells of the thread, comes from the calls for that thread and from those
that are for no thread, in their order.
-/

namespace DebugBridge.Contexts

/-- The thread that a call is for.  Polls are planned for all, and the shown thread is a choice of
the editor's. -/
def StoreEvent.addressee? : StoreEvent → Option Int
  | .commandStarted thread => some thread
  | .commandEnded thread => some thread
  | .pollsPlanned => none
  | .pollApplied target _ => some target.thread
  | .threadShown _ => none

/-- The call is for the thread or for none. -/
def StoreEvent.regards (thread : Int) (event : StoreEvent) : Bool :=
  event.addressee?.all fun other => other = thread

/-- What a call tells of one thread. -/
inductive Answer
  /-- The suffix for the command that was started, if there is such a context. -/
  | suffix (suffix : Option String)
  /-- The polls to make of the thread. -/
  | polls (targets : List PlannedPoll)
  /-- Whether a poll result was accepted. -/
  | accepted (accepted : Bool)
deriving DecidableEq

def answer? (thread : Int) (store : Contexts) : StoreEvent → Option Answer
  | .commandStarted other =>
    if other = thread then some (.suffix (store.startCommand other).1) else none
  | .commandEnded _ => none
  | .pollsPlanned => some (.polls (store.plannedPolls.filter fun target => target.thread = thread))
  | .pollApplied target state =>
    if target.thread = thread then some (.accepted (store.applyPoll target state).1) else none
  | .threadShown _ => none

/-- All that a history tells of a thread. -/
def answersAbout (thread : Int) : List StoreEvent → Contexts → List Answer
  | [], _ => []
  | event :: history, store =>
    (store.answer? thread event).toList ++ answersAbout thread history (store.after event)

/-- A history without the calls for a thread. -/
def withoutThread (thread : Int) (history : List StoreEvent) : List StoreEvent :=
  history.filter fun event => event.addressee? ≠ some thread

/-! ## Through one thread -/

section Thread

variable {thread : Int} {store other : Contexts} {event : StoreEvent}

/-- What a call does to the context it is for. -/
def StoreEvent.change : StoreEvent → ExecutionContext → ExecutionContext
  | .commandStarted _, context => context.startCommand
  | .commandEnded _, context => context.endCommand
  | .pollApplied target state, context =>
    if isFreshPause context target state then context.pauseWith state else context
  | _, context => context

theorem applyPoll_fst (store : Contexts) (target : PlannedPoll) (state : RunState) :
    (store.applyPoll target state).1 =
      (store.get? target.thread).any fun context => isFreshPause context target state := by
  unfold applyPoll
  cases store.get? target.thread with
  | none => rfl
  | some context => cases hfresh : isFreshPause context target state <;> simp [hfresh]

/-- A call changes the context it is for and no other. -/
theorem get?_after (store : Contexts) (event : StoreEvent) (thread : Int) :
    (store.after event).get? thread =
      if event.addressee? = some thread then (store.get? thread).map event.change
      else store.get? thread := by
  cases event with
  | commandStarted named =>
      simp only [after, get?_startCommand, StoreEvent.addressee?, Option.some.injEq, eq_comm]
      rfl
  | commandEnded named =>
      simp only [after, get?_endCommand, StoreEvent.addressee?, Option.some.injEq, eq_comm]
      rfl
  | pollsPlanned => rfl
  | pollApplied target state =>
      simp only [after, get?_applyPoll, applyPoll_fst, StoreEvent.addressee?, Option.some.injEq]
      by_cases hmeant : target.thread = thread
      · subst hmeant
        cases store.get? target.thread with
        | none => simp
        | some context =>
            cases hfresh : isFreshPause context target state <;> simp [StoreEvent.change, hfresh]
      · simp [hmeant, Ne.symm hmeant]
  | threadShown named => rfl

theorem shownThread_after_of_addressee (store : Contexts) {named : Int}
    (hnamed : event.addressee? = some named) :
    (store.after event).shownThread = store.shownThread := by
  cases event with
  | commandStarted thread => rfl
  | commandEnded thread => rfl
  | pollsPlanned => rfl
  | pollApplied target state =>
      rw [after, applyPoll_snd]
      split <;> rfl
  | threadShown thread => cases hnamed

theorem shownThread_after_congr (hshown : other.shownThread = store.shownThread)
    (event : StoreEvent) : (other.after event).shownThread = (store.after event).shownThread := by
  cases hnamed : event.addressee? with
  | some named =>
      rw [shownThread_after_of_addressee other hnamed, shownThread_after_of_addressee store hnamed,
        hshown]
  | none =>
      cases event with
      | pollsPlanned => exact hshown
      | threadShown thread => rfl
      | commandStarted thread => cases hnamed
      | commandEnded thread => cases hnamed
      | pollApplied target state => cases hnamed

theorem filter_thread {contexts : List ExecutionContext}
    (hnodup : (contexts.map (·.thread)).Nodup) (thread : Int) :
    (contexts.filter fun context => context.thread = thread) =
      (contexts.find? fun context => context.thread == thread).toList := by
  induction contexts with
  | nil => rfl
  | cons context contexts ih =>
      obtain ⟨hfirst, hrest⟩ := List.nodup_cons.mp hnodup
      by_cases hmeant : context.thread = thread
      · have hnone : ∀ next ∈ contexts, ¬ next.thread = thread := by
          rintro next hnext rfl
          exact hfirst (List.mem_map.mpr ⟨next, hnext, hmeant.symm⟩)
        simpa [hmeant] using hnone
      · simpa [hmeant] using ih hrest

/-- The polls planned of a thread are told by its context. -/
theorem filter_plannedPolls (hnodup : store.threads.Nodup) (thread : Int) :
    (store.plannedPolls.filter fun target => target.thread = thread) =
      (((store.get? thread).filter fun context => context.running).map fun context =>
        { thread := context.thread, suffix := context.suffix, epoch := context.epoch }).toList := by
  have hswap : (store.plannedPolls.filter fun target => target.thread = thread) =
      ((store.contexts.filter fun context => context.thread = thread).filter (·.running)).map
        fun context =>
          { thread := context.thread, suffix := context.suffix, epoch := context.epoch } := by
    rw [plannedPolls, List.filter_map, List.filter_filter, List.filter_filter]
    congr 1
    apply List.filter_congr
    intro context _
    exact Bool.and_comm _ _
  rw [hswap, filter_thread hnodup, get?]
  cases store.contexts.find? fun context => context.thread == thread with
  | none => rfl
  | some context => cases hrunning : context.running <;> simp [Option.filter, hrunning]

/-- The two stores are the same seen through a thread, and show the same thread. -/
structure Alike (thread : Int) (store other : Contexts) : Prop where
  threads : other.threads = store.threads
  nodup : store.threads.Nodup
  get? : other.get? thread = store.get? thread
  shownThread : other.shownThread = store.shownThread

namespace Alike

theorem refl (hnodup : store.threads.Nodup) : Alike thread store store := ⟨rfl, hnodup, rfl, rfl⟩

theorem answer? (halike : Alike thread store other) (event : StoreEvent) :
    other.answer? thread event = store.answer? thread event := by
  cases event with
  | commandStarted named =>
      by_cases hmeant : named = thread
      · simp [Contexts.answer?, startCommand, hmeant, halike.get?]
      · simp [Contexts.answer?, hmeant]
  | commandEnded named => rfl
  | pollsPlanned =>
      have hother : other.threads.Nodup := halike.threads ▸ halike.nodup
      simp only [Contexts.answer?, filter_plannedPolls halike.nodup, filter_plannedPolls hother,
        halike.get?]
  | pollApplied target state =>
      by_cases hmeant : target.thread = thread
      · simp [Contexts.answer?, applyPoll_fst, hmeant, halike.get?]
      · simp [Contexts.answer?, hmeant]
  | threadShown named => rfl

theorem after (halike : Alike thread store other) (event : StoreEvent) :
    Alike thread (store.after event) (other.after event) where
  threads := by rw [threads_after, threads_after, halike.threads]
  nodup := by rw [threads_after]; exact halike.nodup
  get? := by rw [get?_after, get?_after, halike.get?]
  shownThread := shownThread_after_congr halike.shownThread event

/-- A call for another thread is not seen. -/
theorem after_unseen (halike : Alike thread store other) {named : Int}
    (hnamed : event.addressee? = some named) (hother : named ≠ thread) :
    Alike thread store (other.after event) where
  threads := by rw [threads_after, halike.threads]
  nodup := halike.nodup
  get? := by
    have hmeant : event.addressee? ≠ some thread := by simpa [hnamed] using hother
    rw [get?_after, if_neg hmeant, halike.get?]
  shownThread := by rw [shownThread_after_of_addressee other hnamed, halike.shownThread]

end Alike

theorem answer?_eq_none_of_unseen (store : Contexts) {named : Int}
    (hnamed : event.addressee? = some named) (hother : named ≠ thread) :
    store.answer? thread event = none := by
  cases event with
  | commandStarted started =>
      rw [StoreEvent.addressee?, Option.some.injEq] at hnamed
      exact if_neg (hnamed ▸ hother)
  | commandEnded ended => rfl
  | pollsPlanned => cases hnamed
  | pollApplied target state =>
      rw [StoreEvent.addressee?, Option.some.injEq] at hnamed
      exact if_neg (hnamed ▸ hother)
  | threadShown shown => cases hnamed

/-- Calls for other threads may be left out of a history. -/
theorem alike_filter {keep : StoreEvent → Bool}
    (hunseen : ∀ event, keep event = false →
      ∃ named, event.addressee? = some named ∧ named ≠ thread)
    (halike : Alike thread store other) (history : List StoreEvent) :
    Alike thread (store.afterAll (history.filter keep)) (other.afterAll history) ∧
      answersAbout thread (history.filter keep) store = answersAbout thread history other := by
  induction history generalizing store other with
  | nil => exact ⟨halike, rfl⟩
  | cons event history ih =>
      cases hkeep : keep event with
      | true =>
          obtain ⟨hrest, hanswers⟩ := ih (halike.after event)
          rw [List.filter_cons_of_pos hkeep]
          refine ⟨hrest, ?_⟩
          rw [answersAbout, answersAbout, hanswers, halike.answer? event]
      | false =>
          obtain ⟨named, hnamed, hother⟩ := hunseen event hkeep
          obtain ⟨hrest, hanswers⟩ := ih (halike.after_unseen hnamed hother)
          rw [List.filter_cons_of_neg (by simp [hkeep])]
          refine ⟨hrest, ?_⟩
          rw [hanswers, answersAbout, answer?_eq_none_of_unseen other hnamed hother,
            Option.toList_none, List.nil_append]

end Thread

/-! ## Histories -/

section Histories

variable {thread : Int} {store : Contexts}

/-- Leaving out the calls for one thread changes nothing for another. -/
theorem alike_withoutThread (hnodup : store.threads.Nodup) {gone : Int} (hother : gone ≠ thread)
    (history : List StoreEvent) :
    Alike thread (store.afterAll (withoutThread gone history)) (store.afterAll history) ∧
      answersAbout thread (withoutThread gone history) store =
        answersAbout thread history store := by
  refine alike_filter (fun event hgone => ⟨gone, ?_, hother⟩) (.refl hnodup) history
  simpa using hgone

/-- A thread sees of a history what regards it. -/
theorem alike_regards (hnodup : store.threads.Nodup) (thread : Int) (history : List StoreEvent) :
    Alike thread (store.afterAll (history.filter (·.regards thread))) (store.afterAll history) ∧
      answersAbout thread (history.filter (·.regards thread)) store =
        answersAbout thread history store := by
  refine alike_filter (fun event hgone => ?_) (.refl hnodup) history
  cases hnamed : event.addressee? with
  | none => simp [StoreEvent.regards, hnamed] at hgone
  | some named => exact ⟨named, rfl, by simpa [StoreEvent.regards, hnamed] using hgone⟩

/-- Stores with the same threads that look the same through each are the same. -/
theorem eq_of_alike {other : Contexts} (halike : ∀ thread, Alike thread store other) :
    other = store := by
  have hthreads := (halike 0).threads
  have hnodup := (halike 0).nodup
  have hlength : other.contexts.length = store.contexts.length := by
    simpa [threads] using congrArg List.length hthreads
  have hcontexts : other.contexts = store.contexts := by
    refine List.ext_getElem hlength fun position hposition hstore => ?_
    have hsame : other.contexts[position].thread = store.contexts[position].thread := by
      have hat := congrArg (fun list => list[position]?) hthreads
      simpa [threads, hposition, hstore] using hat
    have hfirst : other.get? other.contexts[position].thread = some other.contexts[position] :=
      get?_of_mem (hthreads ▸ hnodup) (List.getElem_mem hposition)
    have hsecond : store.get? store.contexts[position].thread = some store.contexts[position] :=
      get?_of_mem hnodup (List.getElem_mem hstore)
    rw [(halike _).get?, hsame, hsecond] at hfirst
    exact (Option.some.inj hfirst).symm
  cases store
  cases other
  simp only [mk.injEq]
  exact ⟨hcontexts, (halike 0).shownThread⟩

/-- Two histories that are the same for every thread leave the same store and tell the same. -/
theorem afterAll_eq_of_regards (hnodup : store.threads.Nodup) {first second : List StoreEvent}
    (hsame : ∀ thread, first.filter (·.regards thread) = second.filter (·.regards thread)) :
    store.afterAll first = store.afterAll second ∧
      ∀ thread, answersAbout thread first store = answersAbout thread second store := by
  constructor
  · refine eq_of_alike fun thread => ?_
    have hfirst := (alike_regards hnodup thread first).1
    have hsecond := (alike_regards hnodup thread second).1
    rw [← hsame thread] at hsecond
    exact {
      threads := hfirst.threads.trans hsecond.threads.symm
      nodup := by rw [threads_afterAll]; exact hnodup
      get? := hfirst.get?.trans hsecond.get?.symm
      shownThread := hfirst.shownThread.trans hsecond.shownThread.symm }
  · intro thread
    rw [← (alike_regards hnodup thread first).2, hsame thread,
      (alike_regards hnodup thread second).2]

end Histories

end DebugBridge.Contexts
