import DebugBridge.Context.Execution
import Mathlib.Data.List.Nodup
import Mathlib.Tactic.Common

/-!
# Operations of the context store

What each operation does to the context of one thread, seen through `get?`.  The threads of a store
never change, so that the changes to one context are never seen through another.
-/

namespace DebugBridge

namespace ExecutionContext

@[simp]
theorem thread_startCommand (context : ExecutionContext) :
    context.startCommand.thread = context.thread := rfl

@[simp]
theorem thread_endCommand (context : ExecutionContext) :
    context.endCommand.thread = context.thread := rfl

@[simp]
theorem thread_pauseWith (context : ExecutionContext) (state : RunState) :
    (context.pauseWith state).thread = context.thread := rfl

end ExecutionContext

namespace Contexts

/-- The threads of a store, in its order. -/
def threads (store : Contexts) : List Int := store.contexts.map (·.thread)

theorem thread_of_get? {store : Contexts} {thread : Int} {context : ExecutionContext}
    (hget : store.get? thread = some context) : context.thread = thread := by
  have hfound := List.find?_some hget
  simpa using hfound

theorem mem_of_get? {store : Contexts} {thread : Int} {context : ExecutionContext}
    (hget : store.get? thread = some context) : context ∈ store.contexts :=
  List.mem_of_find?_eq_some hget

/-- Where no two contexts share a thread, every context is found under its own. -/
theorem get?_of_mem {store : Contexts} (hnodup : store.threads.Nodup)
    {context : ExecutionContext} (hmem : context ∈ store.contexts) :
    store.get? context.thread = some context := by
  have hsome : (store.get? context.thread).isSome := by
    rw [get?, List.find?_isSome]
    exact ⟨context, hmem, by simp⟩
  obtain ⟨found, hfound⟩ := Option.isSome_iff_exists.mp hsome
  have hsame : found = context :=
    List.inj_on_of_nodup_map hnodup (mem_of_get? hfound) hmem (thread_of_get? hfound)
  rw [hfound, hsame]

theorem exists_get?_of_mem_threads {store : Contexts} {thread : Int}
    (hthread : thread ∈ store.threads) : ∃ context, store.get? thread = some context := by
  obtain ⟨context, hmem, hsame⟩ := List.mem_map.mp hthread
  rw [← Option.isSome_iff_exists, get?, List.find?_isSome]
  exact ⟨context, hmem, by simpa using hsame⟩

theorem get?_eq_none_iff {store : Contexts} {thread : Int} :
    store.get? thread = none ↔ thread ∉ store.threads := by
  rw [get?, List.find?_eq_none]
  simp [threads]

theorem get?_congr {store other : Contexts} (hcontexts : other.contexts = store.contexts)
    (thread : Int) : other.get? thread = store.get? thread := by
  rw [get?, get?, hcontexts]

theorem threads_modify (store : Contexts) (thread : Int)
    {change : ExecutionContext → ExecutionContext}
    (hthread : ∀ context, (change context).thread = context.thread) :
    (store.modify thread change).threads = store.threads := by
  simp only [threads, modify, List.map_map]
  apply List.map_congr_left
  intro context _
  by_cases hmeant : context.thread = thread
  · simp [hmeant, hthread]
  · simp [hmeant]

/-- A change of one context is seen under its thread and under no other. -/
theorem get?_modify (store : Contexts) (thread other : Int)
    {change : ExecutionContext → ExecutionContext}
    (hthread : ∀ context, (change context).thread = context.thread) :
    (store.modify thread change).get? other =
      if other = thread then (store.get? other).map change else store.get? other := by
  have hpredicate : ((fun context : ExecutionContext => context.thread == other) ∘
      fun context => if context.thread = thread then change context else context) =
        fun context => context.thread == other := by
    funext context
    by_cases hmeant : context.thread = thread
    · simp [hmeant, hthread]
    · simp [hmeant]
  simp only [get?, modify, List.find?_map, hpredicate]
  cases hfound : store.contexts.find? fun context => context.thread == other with
  | none => simp
  | some context =>
      have hcontext : context.thread = other := by simpa using List.find?_some hfound
      by_cases hsame : other = thread
      · simp [hcontext, hsame]
      · simp [hcontext, hsame]

/-- A change meant for a thread without a context changes nothing. -/
theorem modify_eq_self {store : Contexts} {thread : Int} (hunknown : store.get? thread = none)
    (change : ExecutionContext → ExecutionContext) : store.modify thread change = store := by
  have hothers : ∀ context ∈ store.contexts, context.thread ≠ thread := by
    intro context hcontext
    simpa using List.find?_eq_none.mp hunknown context hcontext
  have hsame : ∀ context ∈ store.contexts,
      (if context.thread = thread then change context else context) = id context :=
    fun context hcontext => if_neg (hothers context hcontext)
  rw [modify, List.map_congr_left hsame, List.map_id]

@[simp]
theorem threads_startCommand (store : Contexts) (thread : Int) :
    (store.startCommand thread).2.threads = store.threads :=
  threads_modify store thread ExecutionContext.thread_startCommand

@[simp]
theorem threads_endCommand (store : Contexts) (thread : Int) :
    (store.endCommand thread).threads = store.threads :=
  threads_modify store thread ExecutionContext.thread_endCommand

theorem get?_startCommand (store : Contexts) (thread other : Int) :
    (store.startCommand thread).2.get? other =
      if other = thread then (store.get? other).map ExecutionContext.startCommand
      else store.get? other :=
  get?_modify store thread other ExecutionContext.thread_startCommand

theorem get?_endCommand (store : Contexts) (thread other : Int) :
    (store.endCommand thread).get? other =
      if other = thread then (store.get? other).map ExecutionContext.endCommand
      else store.get? other :=
  get?_modify store thread other ExecutionContext.thread_endCommand

/-- No command begins on a thread that is not known. -/
theorem startCommand_of_unknown {store : Contexts} {thread : Int}
    (hunknown : store.get? thread = none) : store.startCommand thread = (none, store) := by
  rw [startCommand, hunknown, modify_eq_self hunknown]
  rfl

theorem endCommand_of_unknown {store : Contexts} {thread : Int}
    (hunknown : store.get? thread = none) : store.endCommand thread = store :=
  modify_eq_self hunknown ExecutionContext.endCommand

/-! ## Poll results -/

/-- A poll result is accepted exactly when it tells of a fresh pause of its context. -/
theorem applyPoll_fst_eq_true_iff {store : Contexts} {target : PlannedPoll} {state : RunState} :
    (store.applyPoll target state).1 = true ↔
      ∃ context, store.get? target.thread = some context ∧
        isFreshPause context target state = true := by
  unfold applyPoll
  cases store.get? target.thread with
  | none => simp
  | some context =>
      by_cases hfresh : isFreshPause context target state = true
      · simp [hfresh]
      · simp [hfresh]

theorem isFreshPause_eq_true_iff {context : ExecutionContext} {target : PlannedPoll}
    {state : RunState} :
    isFreshPause context target state = true ↔
      state.mode = .paused ∧ context.running = true ∧ context.inFlight = 0 ∧
        context.epoch = target.epoch := by
  simp [isFreshPause, and_assoc]

/-- An accepted poll result pauses its context; any other changes nothing. -/
theorem applyPoll_snd (store : Contexts) (target : PlannedPoll) (state : RunState) :
    (store.applyPoll target state).2 =
      if (store.applyPoll target state).1 then
        store.modify target.thread fun context => context.pauseWith state
      else store := by
  unfold applyPoll
  cases store.get? target.thread with
  | none => simp
  | some context =>
      by_cases hfresh : isFreshPause context target state = true
      · simp [hfresh]
      · simp [hfresh]

@[simp]
theorem threads_applyPoll (store : Contexts) (target : PlannedPoll) (state : RunState) :
    (store.applyPoll target state).2.threads = store.threads := by
  rw [applyPoll_snd]
  split
  · exact threads_modify store target.thread fun context => context.thread_pauseWith state
  · rfl

theorem get?_applyPoll (store : Contexts) (target : PlannedPoll) (state : RunState)
    (other : Int) :
    (store.applyPoll target state).2.get? other =
      if (store.applyPoll target state).1 = true ∧ other = target.thread then
        (store.get? other).map fun context => context.pauseWith state
      else store.get? other := by
  rw [applyPoll_snd]
  by_cases haccepted : (store.applyPoll target state).1 = true
  · rw [if_pos haccepted,
      get?_modify store target.thread other fun context => context.thread_pauseWith state]
    simp [haccepted]
  · simp [haccepted]

/-- A planned poll repeats the thread and the epoch of a running context. -/
theorem mem_plannedPolls_iff {store : Contexts} {target : PlannedPoll} :
    target ∈ store.plannedPolls ↔
      ∃ context ∈ store.contexts, context.running = true ∧ target =
        { thread := context.thread, suffix := context.suffix, epoch := context.epoch } := by
  simp only [plannedPolls, List.mem_map, List.mem_filter]
  constructor
  · rintro ⟨context, ⟨hmem, hrunning⟩, htarget⟩
    exact ⟨context, hmem, hrunning, htarget.symm⟩
  · rintro ⟨context, hmem, hrunning, htarget⟩
    exact ⟨context, ⟨hmem, hrunning⟩, htarget.symm⟩

theorem nodup_threads_ofLayout (layout : ContextLayout) : (ofLayout layout).threads.Nodup := by
  cases layout <;> decide

end Contexts

end DebugBridge
