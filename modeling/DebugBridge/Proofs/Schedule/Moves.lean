import DebugBridge.Schedule.Task
import Mathlib.Tactic.Common

/-!
# Moves of a task's body

What a body does when it is allowed to run is a sequence of moves: it starts a tick, it ends one, it
waits.  It makes moves until none is possible at the moment, so that whatever single moves preserve
holds of every run.
-/

namespace DebugBridge

/-- One move of a body at a moment, and what it logs. -/
inductive BodyMove (now : Nat) : TaskBody → TaskStage → List TaskEvent → TaskStage → Prop
  | wind {period : Nat} {lengths : List Nat} {lastTick : Option Nat} (positive : 0 < period) :
      BodyMove now (.every period lengths lastTick) .starting []
        (.waiting (Timer.start period positive now) 0)
  /-- There is no timer without a period. -/
  | giveUp {lengths : List Nat} {lastTick : Option Nat} :
      BodyMove now (.every 0 lengths lastTick) .starting [] .finished
  | startTick {period : Nat} {lengths : List Nat} {lastTick : Option Nat} {timer : Timer}
      {tick : Nat} (hdue : timer.deadline ≤ now) :
      BodyMove now (.every period lengths lastTick) (.waiting timer tick) [.started now]
        (.ticking (timer.advance now) tick (now + lengths.getD tick 0))
  | endTick {period : Nat} {lengths : List Nat} {lastTick : Option Nat} {timer : Timer}
      {tick ending : Nat} (hover : ending ≤ now) (hmore : lastTick ≠ some tick) :
      BodyMove now (.every period lengths lastTick) (.ticking timer tick ending) [.ended now]
        (.waiting timer (tick + 1))
  | endLastTick {period : Nat} {lengths : List Nat} {lastTick : Option Nat} {timer : Timer}
      {tick ending : Nat} (hover : ending ≤ now) (hlast : lastTick = some tick) :
      BodyMove now (.every period lengths lastTick) (.ticking timer tick ending) [.ended now]
        .finished
  | start {length : Nat} :
      BodyMove now (.once length) .starting [.startedOnce now false] (.runningOnce (now + length))
  | finish {length ending : Nat} (hover : ending ≤ now) :
      BodyMove now (.once length) (.runningOnce ending) [.ended now] .finished

/-- Moves made one after another at one moment. -/
inductive BodyMoves (now : Nat) (body : TaskBody) :
    TaskStage → List TaskEvent → TaskStage → Prop
  | rest (stage : TaskStage) : BodyMoves now body stage [] stage
  | move {stage next last : TaskStage} {first events : List TaskEvent}
      (hmove : BodyMove now body stage first next) (hmoves : BodyMoves now body next events last) :
      BodyMoves now body stage (first ++ events) last

/-- No move is possible at the moment. -/
def Rests (now : Nat) (body : TaskBody) (stage : TaskStage) : Prop :=
  ∀ events next, ¬ BodyMove now body stage events next

section Moves

variable {now : Nat} {body : TaskBody} {stage last : TaskStage} {events : List TaskEvent}

/-- What every move preserves is preserved by all of them. -/
theorem BodyMoves.preserve {motive : List TaskEvent → TaskStage → Prop} {before : List TaskEvent}
    (hmoves : BodyMoves now body stage events last)
    (hmove : ∀ {before stage first next}, motive before stage →
      BodyMove now body stage first next → motive (before ++ first) next)
    (hstart : motive before stage) : motive (before ++ events) last := by
  induction hmoves generalizing before with
  | rest stage => rwa [List.append_nil]
  | move hfirst _ ih =>
      rw [← List.append_assoc]
      exact ih (hmove hstart hfirst)

/-- A body at rest makes no moves. -/
theorem BodyMoves.of_rests (hmoves : BodyMoves now body stage events last)
    (hrests : Rests now body stage) : events = [] ∧ last = stage := by
  cases hmoves with
  | rest => exact ⟨rfl, rfl⟩
  | move hfirst _ => exact absurd hfirst (hrests _ _)

/-- The moves from a stage end in one where the body rests. -/
structure SettlesIn (now : Nat) (body : TaskBody) (stage : TaskStage)
    (settled : TaskStage × List TaskEvent) : Prop where
  moves : BodyMoves now body stage settled.2 settled.1
  rests : Rests now body settled.1

theorem SettlesIn.move {next : TaskStage} {first : List TaskEvent}
    (hsettles : SettlesIn now body next (last, events))
    (hmove : BodyMove now body stage first next) :
    SettlesIn now body stage (last, first ++ events) :=
  ⟨.move hmove hsettles.moves, hsettles.rests⟩

theorem settlesIn_self (hrests : Rests now body stage) : SettlesIn now body stage (stage, []) :=
  ⟨.rest stage, hrests⟩

theorem rests_finished (now : Nat) (body : TaskBody) : Rests now body .finished := by
  rintro _ _ ⟨⟩

theorem rests_runningOnce {length ending : Nat} (hgoesOn : ¬ ending ≤ now) :
    Rests now (.once length) (.runningOnce ending) := by
  rintro _ _ ⟨⟩
  contradiction

end Moves

section Ticks

variable {now period : Nat} {lengths : List Nat} {lastTick : Option Nat} {timer : Timer}
  {tick ending : Nat}

theorem rests_waiting_iff :
    Rests now (.every period lengths lastTick) (.waiting timer tick) ↔ now < timer.deadline := by
  constructor
  · intro hrests
    exact Nat.lt_of_not_le fun hdue => hrests _ _ (.startTick hdue)
  · rintro hearly _ _ ⟨⟩
    omega

theorem rests_ticking_iff :
    Rests now (.every period lengths lastTick) (.ticking timer tick ending) ↔ now < ending := by
  constructor
  · intro hrests
    refine Nat.lt_of_not_le fun hover => ?_
    by_cases hlast : lastTick = some tick
    · exact hrests _ _ (.endLastTick hover hlast)
    · exact hrests _ _ (.endTick hover hlast)
  · rintro hgoesOn _ _ ⟨⟩ <;> omega

/-- After a tick that is not the last one there is another. -/
theorem more_of_ne (hother : lastTick ≠ some tick)
    (hmore : ∀ last ∈ lastTick, tick ≤ last) : ∀ last ∈ lastTick, tick + 1 ≤ last := by
  intro last hlast
  refine Nat.lt_of_le_of_ne (hmore last hlast) ?_
  rintro rfl
  exact hother hlast

/-- A tick that lasts no time ends when it starts. -/
theorem SettlesIn.of_instant {last : TaskStage} {events : List TaskEvent}
    (hdue : timer.deadline ≤ now) (hlength : lengths.getD tick 0 = 0)
    (hsettles : SettlesIn now (.every period lengths lastTick)
      (.ticking (timer.advance now) tick now) (last, events)) :
    SettlesIn now (.every period lengths lastTick) (.waiting timer tick)
      (last, .started now :: events) := by
  have hmove : BodyMove now (.every period lengths lastTick) (.waiting timer tick) [.started now]
      (.ticking (timer.advance now) tick (now + lengths.getD tick 0)) := .startTick hdue
  rw [hlength] at hmove
  exact hsettles.move hmove

/-- The ticks that are due are taken until the next one is not due or lasts. -/
theorem settlesIn_take (now period : Nat) (lengths : List Nat) (lastTick : Option Nat)
    (timer : Timer) (tick : Nat) :
    SettlesIn now (.every period lengths lastTick) (.waiting timer tick)
      (Ticks.take { lengths, lastTick } now timer tick) := by
  fun_induction Ticks.take { lengths, lastTick } now timer tick with
  | case1 timer tick hdue hlength hlast =>
      refine .of_instant hdue hlength ?_
      exact (settlesIn_self (rests_finished now _)).move
        (.endLastTick (Nat.le_refl _) (beq_iff_eq.mp hlast))
  | case2 timer tick hdue next hlength hlast stage events htaken ih =>
      rw [htaken] at ih
      refine .of_instant hdue hlength ?_
      exact ih.move (.endTick (Nat.le_refl _) fun hsame => hlast (beq_iff_eq.mpr hsame))
  | case3 timer tick hdue next hlength =>
      have hsome : 0 < lengths.getD tick 0 := Nat.pos_of_ne_zero hlength
      have hgoesOn : now < now + lengths.getD tick 0 := Nat.lt_add_of_pos_right hsome
      exact (settlesIn_self (rests_ticking_iff.mpr hgoesOn)).move (.startTick hdue)
  | case4 timer tick hearly =>
      exact settlesIn_self (rests_waiting_iff.mpr (Nat.lt_of_not_le hearly))

end Ticks

/-- A body makes the moves that are possible at the moment, and then rests. -/
theorem settlesIn_settledStage (now : Nat) (body : TaskBody) (stage : TaskStage) :
    SettlesIn now body stage (BackgroundTask.settledStage now body stage) := by
  fun_cases BackgroundTask.settledStage now body stage with
  | case1 period lengths lastTick positive =>
      exact (settlesIn_take _ _ _ _ _ _).move (.wind positive)
  | case2 period lengths lastTick hnone =>
      obtain rfl : period = 0 := Nat.eq_zero_of_not_pos hnone
      exact (settlesIn_self (rests_finished now _)).move .giveUp
  | case3 period lengths lastTick timer tick => exact settlesIn_take _ _ _ _ _ _
  | case4 period lengths timer tick ending hover =>
      exact (settlesIn_self (rests_finished now _)).move (.endLastTick hover rfl)
  | case5 period lengths lastTick timer tick ending hover hmore stage events htaken =>
      have hsettles := settlesIn_take now period lengths lastTick timer (tick + 1)
      rw [htaken] at hsettles
      exact hsettles.move (.endTick hover hmore)
  | case6 period lengths lastTick timer tick ending hgoesOn =>
      exact settlesIn_self (rests_ticking_iff.mpr (Nat.lt_of_not_le hgoesOn))
  | case7 =>
      have hends : SettlesIn now (.once 0) (.runningOnce now) (.finished, [.ended now]) :=
        (settlesIn_self (rests_finished now _)).move (.finish (Nat.le_refl _))
      exact hends.move .start
  | case8 length hlength =>
      have hgoesOn : ¬ now + length ≤ now := by omega
      exact (settlesIn_self (rests_runningOnce hgoesOn)).move .start
  | case9 length ending hover =>
      exact (settlesIn_self (rests_finished now _)).move (.finish hover)
  | case10 length ending hgoesOn => exact settlesIn_self (rests_runningOnce hgoesOn)
  | case11 body stage hstart hwaits hticks hstartsOnce hrunsOnce =>
      -- The stage belongs to another kind of body, or to one that has ended.
      refine settlesIn_self ?_
      rintro _ _ (_ | _ | _ | _ | _ | _ | _)
      · exact hstart _ _ _ rfl rfl
      · exact hstart _ _ _ rfl rfl
      · exact hwaits _ _ _ _ _ rfl rfl
      · exact hticks _ _ _ _ _ _ rfl rfl
      · exact hticks _ _ _ _ _ _ rfl rfl
      · exact hstartsOnce _ rfl rfl
      · exact hrunsOnce _ _ rfl rfl

namespace BackgroundTask

variable {task : BackgroundTask} {now : Nat}

theorem settle_of_active (hactive : task.cancelled = false) :
    task.settle now = ({ task with stage := (settledStage now task.body task.stage).1 },
      (settledStage now task.body task.stage).2) := by
  rw [settle, hactive]
  rfl

/-- A task that has been told to stop ends without doing anything more. -/
theorem settle_of_cancelled (hcancelled : task.cancelled = true) :
    task.settle now = ({ task with stage := .finished }, []) := by
  rw [settle, if_pos hcancelled]

@[simp]
theorem body_settle (task : BackgroundTask) (now : Nat) :
    (task.settle now).1.body = task.body := by
  unfold settle
  split <;> rfl

@[simp]
theorem cancelled_settle (task : BackgroundTask) (now : Nat) :
    (task.settle now).1.cancelled = task.cancelled := by
  unfold settle
  split <;> rfl

end BackgroundTask

namespace TaskRun

/-! ## The clock -/

/-- What a task does from its start on, over so many milliseconds. -/
def log (body : TaskBody) (milliseconds : Nat) : List TaskEvent :=
  (start body).2 ++ ((start body).1.advance milliseconds).2

@[simp]
theorem task_settle (run : TaskRun) : run.settle.1.task = (run.task.settle run.now).1 := rfl

theorem advance_succ (milliseconds : Nat) (run : TaskRun) :
    run.advance (milliseconds + 1) =
      let settled := settle { run with now := run.now + 1 }
      ((settled.1.advance milliseconds).1, settled.2 ++ (settled.1.advance milliseconds).2) := rfl

section Clock

variable {body : TaskBody} {motive : Nat → List TaskEvent → TaskStage → Prop}
  {before : List TaskEvent}

/-- What moves preserve holds once a task has settled, if it held before. -/
theorem settle_induction (run : TaskRun)
    (hmove : ∀ {now before stage first next}, motive now before stage →
      BodyMove now body stage first next → motive now (before ++ first) next)
    (hbody : run.task.body = body) (hactive : run.task.cancelled = false)
    (hholds : motive run.now before run.task.stage) :
    motive run.now (before ++ run.settle.2) run.settle.1.task.stage ∧
      Rests run.now body run.settle.1.task.stage := by
  have hsettles := settlesIn_settledStage run.now run.task.body run.task.stage
  rw [settle, BackgroundTask.settle_of_active hactive]
  rw [hbody] at hsettles ⊢
  exact ⟨hsettles.moves.preserve hmove hholds, hsettles.rests⟩

variable (hmove : ∀ {now before stage first next}, motive now before stage →
    BodyMove now body stage first next → motive now (before ++ first) next)
  (hpass : ∀ {now before stage}, motive now before stage → Rests now body stage →
    motive (now + 1) before stage)

include hmove hpass

theorem advance_induction (run : TaskRun) (milliseconds : Nat)
    (hbody : run.task.body = body) (hactive : run.task.cancelled = false)
    (hholds : motive run.now before run.task.stage) (hrests : Rests run.now body run.task.stage) :
    ∃ stage, motive (run.now + milliseconds) (before ++ (run.advance milliseconds).2) stage ∧
      Rests (run.now + milliseconds) body stage := by
  induction milliseconds generalizing run before with
  | zero =>
      refine ⟨run.task.stage, ?_, hrests⟩
      rwa [advance, List.append_nil]
  | succ milliseconds ih =>
      let next : TaskRun := { run with now := run.now + 1 }
      obtain ⟨hsettled, hsettledRests⟩ :=
        settle_induction (motive := motive) next hmove hbody hactive (hpass hholds hrests)
      have hlater := ih next.settle.1 (by simpa using hbody) (by simpa using hactive) hsettled
        hsettledRests
      have htime : next.settle.1.now + milliseconds = run.now + (milliseconds + 1) :=
        Nat.succ_add_eq_add_succ run.now milliseconds
      rwa [List.append_assoc, htime] at hlater

/-- What moves preserve, and a millisecond does while the body rests, holds at all times. -/
theorem log_induction (hstart : motive 0 [] .starting) (milliseconds : Nat) :
    ∃ stage, motive milliseconds (log body milliseconds) stage ∧
      Rests milliseconds body stage := by
  obtain ⟨hsettled, hrests⟩ :=
    settle_induction (motive := motive) (ofBody body) hmove rfl rfl hstart
  have hlater := advance_induction (motive := motive) hmove hpass (start body).1 milliseconds
    (by simp [start, ofBody]) (by simp [start, ofBody]) hsettled hrests
  have htime : (start body).1.now + milliseconds = milliseconds := Nat.zero_add milliseconds
  rwa [htime] at hlater

end Clock

end TaskRun

end DebugBridge
