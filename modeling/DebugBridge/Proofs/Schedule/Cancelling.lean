import DebugBridge.Proofs.Schedule.Moves

/-!
# Cancelling a task

A task is followed through the passing of time, the moments at which it may run, and what its owner
does.  Once the owner has cancelled or dropped it, it does nothing more, however much is due, and
counts as finished; left alone, it is finished just when its body has come to its end.
-/

namespace DebugBridge

/-- What can happen to a task on its thread. -/
inductive TaskStep
  /-- The clock moves on; the task has not run since. -/
  | pass (milliseconds : Nat)
  /-- The task runs until it waits. -/
  | settle
  | cancel
  | drop
  | join

/-- The owner gives the task up. -/
def TaskStep.stops : TaskStep → Bool
  | .cancel => true
  | .drop => true
  | _ => false

/-- The moments at which ticks, or a body that does not repeat, come to their end. -/
def endsIn (events : List TaskEvent) : List Nat :=
  events.filterMap fun
    | .ended now => some now
    | _ => none

/-- What is logged tells that the body has come to its end: its last tick has, or all of it if it
does not repeat.  A body that repeats without a period has none. -/
def TaskBody.isOver : TaskBody → List TaskEvent → Bool
  | .every period _ lastTick, events =>
    period == 0 || lastTick.any fun last => (endsIn events).length == last + 1
  | .once _, events => (endsIn events).length == 1

namespace TaskRun

def act : TaskStep → TaskRun → TaskRun × List TaskEvent
  | .pass milliseconds, run => ({ run with now := run.now + milliseconds }, [])
  | .settle, run => run.settle
  | .cancel, run => (run.cancel, [])
  | .drop, run => (run.drop, [])
  | .join, run => (run.join, [])

def follow : List TaskStep → TaskRun → TaskRun × List TaskEvent
  | [], run => (run, [])
  | step :: steps, run =>
    let (run, first) := run.act step
    let (run, events) := run.follow steps
    (run, first ++ events)

theorem follow_cons (step : TaskStep) (steps : List TaskStep) (run : TaskRun) :
    run.follow (step :: steps) = (((run.act step).1.follow steps).1,
      (run.act step).2 ++ ((run.act step).1.follow steps).2) := rfl

theorem follow_append (first second : List TaskStep) (run : TaskRun) :
    run.follow (first ++ second) = (((run.follow first).1.follow second).1,
      (run.follow first).2 ++ ((run.follow first).1.follow second).2) := by
  induction first generalizing run with
  | nil => rfl
  | cons step first ih =>
      rw [List.cons_append, follow_cons, ih, follow_cons, List.append_assoc]

/-- Under the clock a task runs after every single millisecond. -/
theorem advance_eq_follow (milliseconds : Nat) (run : TaskRun) :
    run.advance milliseconds =
      run.follow (List.replicate milliseconds [TaskStep.pass 1, .settle]).flatten := by
  induction milliseconds generalizing run with
  | zero => rfl
  | succ milliseconds ih =>
      have hstep : run.follow [.pass 1, .settle] = settle { run with now := run.now + 1 } := by
        rw [follow_cons, follow_cons]
        exact Prod.ext rfl (List.append_nil _)
      rw [advance_succ, List.replicate_succ, List.flatten_cons, follow_append, hstep]
      simp only [ih]

/-! ## After the end -/

section Ended

variable {run : TaskRun}

/-- Nothing more will come of the task: it has been told to stop, or its body has ended. -/
def Ended (run : TaskRun) : Prop := run.task.cancelled = true ∨ run.task.stage = .finished

theorem Ended.settle (hended : run.Ended) :
    run.settle.2 = [] ∧ run.settle.1.task.stage = .finished := by
  rcases hended with hcancelled | hfinished
  · rw [TaskRun.settle, BackgroundTask.settle_of_cancelled hcancelled]
    exact ⟨rfl, rfl⟩
  · cases hcancelled : run.task.cancelled with
    | true =>
        rw [TaskRun.settle, BackgroundTask.settle_of_cancelled hcancelled]
        exact ⟨rfl, rfl⟩
    | false =>
        have hsettles := settlesIn_settledStage run.now run.task.body run.task.stage
        rw [TaskRun.settle, BackgroundTask.settle_of_active hcancelled]
        rw [hfinished] at hsettles ⊢
        exact hsettles.moves.of_rests (rests_finished _ _)

theorem Ended.act (hended : run.Ended) (step : TaskStep) :
    (run.act step).2 = [] ∧ (run.act step).1.Ended := by
  cases step with
  | pass milliseconds => exact ⟨rfl, hended⟩
  | settle => exact ⟨hended.settle.1, .inr hended.settle.2⟩
  | cancel =>
      refine ⟨rfl, ?_⟩
      simp only [TaskRun.act, TaskRun.cancel]
      split
      · exact .inl rfl
      · exact hended
  | drop =>
      refine ⟨rfl, ?_⟩
      simp only [TaskRun.act, TaskRun.drop]
      split
      · exact .inl rfl
      · exact hended
  | join =>
      refine ⟨rfl, ?_⟩
      simp only [TaskRun.act, TaskRun.join]
      split
      · exact hended
      · exact hended

theorem Ended.follow (hended : run.Ended) (steps : List TaskStep) :
    (run.follow steps).2 = [] ∧ (run.follow steps).1.Ended := by
  induction steps generalizing run with
  | nil => exact ⟨rfl, hended⟩
  | cons step steps ih =>
      obtain ⟨hfirst, hnext⟩ := hended.act step
      obtain ⟨hrest, hlast⟩ := ih hnext
      rw [follow_cons, hfirst, hrest]
      exact ⟨rfl, hlast⟩

/-- Whoever waits for a task that has ended waits no longer. -/
theorem Ended.joined? (hended : run.Ended) :
    run.joined? = if run.owner = .awaited then some true else none := by
  rw [TaskRun.joined?, BackgroundTask.isFinished, hended.settle.2]
  rfl

/-- The owner's steps take effect while the task is held. -/
theorem ended_of_stops {step : TaskStep} (hstops : step.stops = true) (hheld : run.owner = .held) :
    (run.act step).2 = [] ∧ (run.act step).1.Ended := by
  cases step with
  | cancel =>
      rw [TaskRun.act, TaskRun.cancel, if_pos hheld]
      exact ⟨rfl, .inl rfl⟩
  | drop =>
      rw [TaskRun.act, TaskRun.drop, if_pos hheld]
      exact ⟨rfl, .inl rfl⟩
  | pass milliseconds => cases hstops
  | settle => cases hstops
  | join => cases hstops

end Ended

/-! ## Who holds a task -/

theorem owner_cancel (run : TaskRun) : run.cancel.owner = run.owner := by
  unfold TaskRun.cancel
  split <;> rfl

theorem owner_drop (run : TaskRun) :
    run.drop.owner = if run.owner = .held then .dropped else run.owner := by
  unfold TaskRun.drop
  split <;> rfl

theorem owner_join (run : TaskRun) :
    run.join.owner = if run.owner = .held then .awaited else run.owner := by
  unfold TaskRun.join
  split <;> rfl

/-- Who holds the task depends on what its owner does, and on nothing else. -/
theorem owner_follow (first second : TaskRun) (howner : first.owner = second.owner)
    (steps : List TaskStep) : (first.follow steps).1.owner = (second.follow steps).1.owner := by
  induction steps generalizing first second with
  | nil => exact howner
  | cons step steps ih =>
      refine ih _ _ ?_
      cases step with
      | pass milliseconds => exact howner
      | settle => exact howner
      | cancel =>
          change first.cancel.owner = second.cancel.owner
          rwa [owner_cancel, owner_cancel]
      | drop =>
          change first.drop.owner = second.drop.owner
          rw [owner_drop, owner_drop, howner]
      | join =>
          change first.join.owner = second.join.owner
          rw [owner_join, owner_join, howner]

/-! ## Left alone -/

end TaskRun

section Alone

variable {now : Nat} {body : TaskBody} {before first events : List TaskEvent}
  {stage next : TaskStage}

theorem endsIn_append (first second : List TaskEvent) :
    endsIn (first ++ second) = endsIn first ++ endsIn second := List.filterMap_append

/-- What a body can have logged when it is at a stage, as far as ends are concerned. -/
inductive Lived : TaskBody → List TaskEvent → TaskStage → Prop
  | starting {body : TaskBody} : Lived body [] .starting
  | waiting {period : Nat} {lengths : List Nat} {lastTick : Option Nat} {events : List TaskEvent}
      {timer : Timer} (positive : 0 < period)
      (hmore : ∀ last ∈ lastTick, (endsIn events).length ≤ last) :
      Lived (.every period lengths lastTick) events (.waiting timer (endsIn events).length)
  | ticking {period : Nat} {lengths : List Nat} {lastTick : Option Nat} {events : List TaskEvent}
      {timer : Timer} {ending : Nat} (positive : 0 < period)
      (hmore : ∀ last ∈ lastTick, (endsIn events).length ≤ last) :
      Lived (.every period lengths lastTick) events (.ticking timer (endsIn events).length ending)
  | runningOnce {length ending : Nat} {events : List TaskEvent} (hnone : endsIn events = []) :
      Lived (.once length) events (.runningOnce ending)
  | finished {body : TaskBody} {events : List TaskEvent} (hover : body.isOver events = true) :
      Lived body events .finished

theorem Lived.move (hlived : Lived body before stage)
    (hmove : BodyMove now body stage first next) : Lived body (before ++ first) next := by
  cases hmove with
  | wind positive =>
      cases hlived
      exact .waiting positive fun _ _ => Nat.zero_le _
  | giveUp => exact .finished rfl
  | startTick hdue =>
      cases hlived with
      | waiting positive hmore =>
          have hsame : endsIn (before ++ [.started now]) = endsIn before := by
            rw [endsIn_append]
            exact List.append_nil _
          rw [← hsame] at hmore ⊢
          exact .ticking positive hmore
  | endTick hover hother =>
      cases hlived with
      | ticking positive hmore =>
          have hlength : (endsIn (before ++ [.ended now])).length = (endsIn before).length + 1 := by
            rw [endsIn_append]
            exact List.length_append
          have hlater := more_of_ne hother hmore
          rw [← hlength] at hlater ⊢
          exact .waiting positive hlater
  | endLastTick hover hlast =>
      cases hlived with
      | ticking positive hmore =>
          have hlength : (endsIn (before ++ [.ended now])).length = (endsIn before).length + 1 := by
            rw [endsIn_append]
            exact List.length_append
          refine .finished ?_
          rw [TaskBody.isOver, hlast, Option.any_some, hlength, beq_self_eq_true, Bool.or_true]
  | start =>
      cases hlived
      exact .runningOnce rfl
  | finish hover =>
      cases hlived with
      | runningOnce hnone =>
          refine .finished ?_
          rw [TaskBody.isOver, endsIn_append, hnone]
          rfl

theorem not_rests_starting (now : Nat) (body : TaskBody) : ¬ Rests now body .starting := by
  intro hrests
  cases body with
  | every period lengths lastTick =>
      rcases Nat.eq_zero_or_pos period with rfl | positive
      · exact hrests _ _ .giveUp
      · exact hrests _ _ (.wind positive)
  | once length => exact hrests _ _ .start

theorem isOver_every_eq_false {period : Nat} {lengths : List Nat} {lastTick : Option Nat}
    (positive : 0 < period) (hmore : ∀ last ∈ lastTick, (endsIn events).length ≤ last) :
    (TaskBody.every period lengths lastTick).isOver events = false := by
  have hperiod : (period == 0) = false := beq_eq_false_iff_ne.mpr (Nat.ne_of_gt positive)
  rw [TaskBody.isOver, hperiod, Bool.false_or]
  cases lastTick with
  | none => rfl
  | some last =>
      have hbefore := hmore last rfl
      exact beq_eq_false_iff_ne.mpr (by omega)

/-- While a body rests, it is at its end just if the log tells so. -/
theorem Lived.isOver (hlived : Lived body events stage) (hrests : Rests now body stage) :
    (stage == .finished) = body.isOver events := by
  cases hlived with
  | starting => exact absurd hrests (not_rests_starting now body)
  | waiting positive hmore => exact (isOver_every_eq_false positive hmore).symm
  | ticking positive hmore => exact (isOver_every_eq_false positive hmore).symm
  | runningOnce hnone =>
      rw [TaskBody.isOver, hnone]
      rfl
  | finished hover => rw [hover, beq_self_eq_true]

end Alone

namespace TaskRun

section Alone

variable {body : TaskBody} {run : TaskRun} {before : List TaskEvent}

/-- The task is not told to stop, and what has been logged fits the stage of its body. -/
structure Alone (body : TaskBody) (before : List TaskEvent) (run : TaskRun) : Prop where
  isBody : run.task.body = body
  active : run.task.cancelled = false
  lived : Lived body before run.task.stage

theorem Alone.settle (halone : Alone body before run) :
    Alone body (before ++ run.settle.2) run.settle.1 ∧
      Rests run.now body run.settle.1.task.stage := by
  obtain ⟨hlived, hrests⟩ := settle_induction (motive := fun _ => Lived body) run .move
    halone.isBody halone.active halone.lived
  refine ⟨⟨?_, ?_, hlived⟩, hrests⟩
  · rw [task_settle, BackgroundTask.body_settle, halone.isBody]
  · rw [task_settle, BackgroundTask.cancelled_settle, halone.active]

theorem Alone.act (halone : Alone body before run) {step : TaskStep} (hstep : step.stops = false) :
    Alone body (before ++ (run.act step).2) (run.act step).1 := by
  cases step with
  | pass milliseconds =>
      rw [TaskRun.act, List.append_nil]
      exact ⟨halone.isBody, halone.active, halone.lived⟩
  | settle => exact halone.settle.1
  | cancel => cases hstep
  | drop => cases hstep
  | join =>
      rw [TaskRun.act, List.append_nil]
      unfold TaskRun.join
      split
      · exact ⟨halone.isBody, halone.active, halone.lived⟩
      · exact halone

theorem Alone.follow (halone : Alone body before run) {steps : List TaskStep}
    (hsteps : ∀ step ∈ steps, step.stops = false) :
    Alone body (before ++ (run.follow steps).2) (run.follow steps).1 := by
  induction steps generalizing run before with
  | nil => rwa [TaskRun.follow, List.append_nil]
  | cons step steps ih =>
      obtain ⟨hstep, hmore⟩ := List.forall_mem_cons.mp hsteps
      rw [follow_cons, ← List.append_assoc]
      exact ih (halone.act hstep) hmore

/-- As far as the task gets by now, it is finished just if its body is over. -/
theorem Alone.isFinished (halone : Alone body before run) :
    run.settle.1.task.isFinished = body.isOver (before ++ run.settle.2) := by
  obtain ⟨hsettled, hrests⟩ := halone.settle
  exact hsettled.lived.isOver hrests

end Alone

/-- Cancelling or dropping a task ends it at once, whatever is due at that moment; then, and when
its body has ended, cancelling changes nothing any more; and without it, whoever waits for the task
waits just until its body is over. -/
theorem cancellation_is_final (body : TaskBody) (before : List TaskStep) :
    let run := (ofBody body).follow before
    (run.1.owner = .held → ∀ stop, stop.stops = true → ∀ later,
      let after := (ofBody body).follow (before ++ stop :: later)
      after.2 = run.2 ∧ after.1.settle.1.task.isFinished = true ∧
        (after.1.owner = .awaited → after.1.joined? = some true)) ∧
    (run.1.Ended → ∀ later,
      let again := (ofBody body).follow (before ++ .cancel :: later)
      let plain := (ofBody body).follow (before ++ later)
      again.2 = plain.2 ∧ again.1.joined? = plain.1.joined? ∧
        again.1.settle.1.task.isFinished = plain.1.settle.1.task.isFinished) ∧
    ((∀ step ∈ before, step.stops = false) →
      run.1.settle.1.task.isFinished = body.isOver (run.2 ++ run.1.settle.2) ∧
        (run.1.owner = .awaited →
          run.1.joined? = some (body.isOver (run.2 ++ run.1.settle.2)))) := by
  intro run
  refine ⟨fun hheld stop hstops later => ?_, fun hended later => ?_, fun halone => ?_⟩
  · obtain ⟨hnothing, hended⟩ := ended_of_stops hstops hheld
    obtain ⟨hsilent, hafter⟩ := hended.follow later
    rw [follow_append, follow_cons, hnothing, hsilent]
    refine ⟨List.append_nil _, ?_, fun hawaited => ?_⟩
    · rw [BackgroundTask.isFinished, hafter.settle.2]
      rfl
    · rw [hafter.joined?, if_pos hawaited]
  · obtain ⟨hnothing, hcancelled⟩ := hended.act .cancel
    obtain ⟨hsilentAgain, hagain⟩ := hcancelled.follow later
    obtain ⟨hsilent, hplain⟩ := hended.follow later
    have howner := owner_follow run.1.cancel run.1 (owner_cancel run.1) later
    rw [follow_append, follow_append, follow_cons, hnothing, hsilentAgain, hsilent]
    refine ⟨rfl, ?_, ?_⟩
    · rw [hagain.joined?, hplain.joined?]
      exact congrArg (if · = TaskOwner.awaited then some true else none) howner
    · rw [BackgroundTask.isFinished, hagain.settle.2, BackgroundTask.isFinished, hplain.settle.2]
  · have hstart : Alone body [] (ofBody body) := ⟨rfl, rfl, .starting⟩
    have hrun : Alone body run.2 run.1 := hstart.follow halone
    have hfinished := hrun.isFinished
    refine ⟨hfinished, fun hawaited => ?_⟩
    rw [joined?, if_pos hawaited, hfinished]

/-- Of two ticks the second is due when the owner gives the task up: it does not start.  Without
that it would have started, and ended the task. -/
theorem cancellation_is_final_at_due_tick :
    let body := TaskBody.every 10 [0, 3] (some 1)
    let before := [TaskStep.settle, .pass 10]
    let cancelled := (ofBody body).follow (before ++ .cancel :: [.settle, .pass 3, .settle, .join])
    let twice := (ofBody body).follow ((before ++ [.cancel]) ++ .cancel :: [.join])
    let alone := (ofBody body).follow (before ++ [.settle, .pass 3, .join])
    (cancelled.2 = [.started 0, .ended 0] ∧ cancelled.1.settle.1.task.isFinished = true ∧
      cancelled.1.joined? = some true) ∧
    (twice.2 = [.started 0, .ended 0] ∧ twice.1.joined? = some true) ∧
    alone.2 ++ alone.1.settle.2 = [.started 0, .ended 0, .started 10, .ended 13] ∧
      alone.1.joined? = some true := by
  intro body before cancelled twice alone
  have hbefore : ((ofBody body).follow before).2 = [.started 0, .ended 0] := by decide +kernel
  have halone : alone.2 ++ alone.1.settle.2 =
      [.started 0, .ended 0, .started 10, .ended 13] := by decide +kernel
  obtain ⟨hfinal, -, -⟩ := cancellation_is_final body before
  obtain ⟨hlog, hfinished, hjoined⟩ := hfinal rfl .cancel rfl [.settle, .pass 3, .settle, .join]
  obtain ⟨-, hagain, -⟩ := cancellation_is_final body (before ++ [.cancel])
  obtain ⟨htwice, hjoinedTwice, -⟩ := hagain (.inl rfl) [.join]
  obtain ⟨-, -, hleft⟩ := cancellation_is_final body (before ++ [.settle, .pass 3, .join])
  obtain ⟨-, hjoinedAlone⟩ := hleft (by decide)
  have honce : ((ofBody body).follow ((before ++ [.cancel]) ++ [.join])).2 =
      [.started 0, .ended 0] := by decide +kernel
  have honceJoined : ((ofBody body).follow ((before ++ [.cancel]) ++ [.join])).1.joined? =
      some true := by decide +kernel
  refine ⟨⟨hlog.trans hbefore, hfinished, hjoined rfl⟩, ⟨htwice.trans honce, ?_⟩, halone, ?_⟩
  · exact hjoinedTwice.trans honceJoined
  · rw [hjoinedAlone rfl, halone]
    rfl

end TaskRun

end DebugBridge
