import DebugBridge.Schedule.Timer

/-!
# Scheduled tasks

A task runs in the background until it ends or is cancelled.  A repeating task ticks at once and
then at every deadline of its timer; a tick that lasts keeps the next one waiting.  Cancelling
leaves a mark that the task looks at whenever it is about to run on, before its body takes another
step.
-/

namespace DebugBridge

/-- What a task does. -/
inductive TaskBody
  /-- Ticks of the given lengths, each by its number; an optional last tick. -/
  | every (period : Nat) (lengths : List Nat) (lastTick : Option Nat)
  | once (length : Nat)

inductive TaskEvent
  /-- A tick starts. -/
  | started (now : Nat)
  /-- A task that does not repeat starts; tells whether it was cancelled before. -/
  | startedOnce (now : Nat) (cancelled : Bool)
  | ended (now : Nat)
deriving DecidableEq, Repr

/-- Where a task is. -/
inductive TaskStage
  | starting
  /-- Before the tick of this number. -/
  | waiting (timer : Timer) (tick : Nat)
  /-- Inside the tick of this number, until a moment. -/
  | ticking (timer : Timer) (tick : Nat) (ending : Nat)
  | runningOnce (ending : Nat)
  | finished
deriving DecidableEq

/-- Lengths and last tick of a repeating task. -/
structure Ticks where
  lengths : List Nat
  lastTick : Option Nat

namespace Ticks

def length (ticks : Ticks) (tick : Nat) : Nat := ticks.lengths.getD tick 0

def isLast (ticks : Ticks) (tick : Nat) : Bool := ticks.lastTick == some tick

/-- Takes every tick that is due now, as long as they last no time. -/
def take (ticks : Ticks) (now : Nat) (timer : Timer) (tick : Nat) :
    TaskStage × List TaskEvent :=
  if timer.deadline ≤ now then
    let next := timer.advance now
    if ticks.length tick = 0 then
      if ticks.isLast tick then (.finished, [.started now, .ended now])
      else
        let (stage, events) := ticks.take now next (tick + 1)
        (stage, .started now :: .ended now :: events)
    else (.ticking next tick (now + ticks.length tick), [.started now])
  else (.waiting timer tick, [])
termination_by now + 1 - timer.deadline
decreasing_by
  have later := timer.deadline_lt_advance now
  omega

end Ticks

structure BackgroundTask where
  body : TaskBody
  stage : TaskStage := .starting
  /-- Whether the task has been told to stop. -/
  cancelled : Bool := false

namespace BackgroundTask

def isFinished (task : BackgroundTask) : Bool := task.stage == .finished

def cancel (task : BackgroundTask) : BackgroundTask := { task with cancelled := true }

/-- The stage a body settles in at a moment, and what it does on the way. -/
def settledStage (now : Nat) : TaskBody → TaskStage → TaskStage × List TaskEvent
  | .every period lengths lastTick, .starting =>
    if positive : 0 < period then
      Ticks.take { lengths, lastTick } now (Timer.start period positive now) 0
    else (.finished, [])
  | .every _ lengths lastTick, .waiting timer tick =>
    Ticks.take { lengths, lastTick } now timer tick
  | .every _ lengths lastTick, .ticking timer tick ending =>
    if ending ≤ now then
      if lastTick = some tick then (.finished, [.ended now])
      else
        let (stage, events) := Ticks.take { lengths, lastTick } now timer (tick + 1)
        (stage, .ended now :: events)
    else (.ticking timer tick ending, [])
  | .once length, .starting =>
    if length = 0 then (.finished, [.startedOnce now false, .ended now])
    else (.runningOnce (now + length), [.startedOnce now false])
  | .once _, .runningOnce ending =>
    if ending ≤ now then (.finished, [.ended now]) else (.runningOnce ending, [])
  | _, stage => (stage, [])

/-- Lets the task run until it waits.  A task that has been told to stop ends before its body runs
on, whatever the body waits for. -/
def settle (task : BackgroundTask) (now : Nat) : BackgroundTask × List TaskEvent :=
  if task.cancelled then ({ task with stage := .finished }, [])
  else
    let (stage, events) := settledStage now task.body task.stage
    ({ task with stage }, events)

end BackgroundTask

/-- Who holds a task. -/
inductive TaskOwner
  | held
  | dropped
  /-- Somebody waits for its end. -/
  | awaited
deriving DecidableEq

/-- A task under a clock. -/
structure TaskRun where
  task : BackgroundTask
  now : Nat := 0
  owner : TaskOwner := .held

namespace TaskRun

def settle (run : TaskRun) : TaskRun × List TaskEvent :=
  let (task, events) := run.task.settle run.now
  ({ run with task }, events)

/-- A task at moment zero that has not begun to run. -/
def ofBody (body : TaskBody) : TaskRun := { task := { body } }

/-- Starts a task at moment zero. -/
def start (body : TaskBody) : TaskRun × List TaskEvent := (ofBody body).settle

/-- Moves the clock on by single milliseconds. -/
def advance : (milliseconds : Nat) → TaskRun → TaskRun × List TaskEvent
  | 0, run => (run, [])
  | milliseconds + 1, run =>
    let (run, first) := settle { run with now := run.now + 1 }
    let (run, events) := advance milliseconds run
    (run, first ++ events)

/-- Only the holder of a task can cancel it. -/
def cancel (run : TaskRun) : TaskRun :=
  if run.owner = .held then { run with task := run.task.cancel } else run

def drop (run : TaskRun) : TaskRun :=
  if run.owner = .held then { run with task := run.task.cancel, owner := .dropped } else run

def join (run : TaskRun) : TaskRun :=
  if run.owner = .held then { run with owner := .awaited } else run

/-- Whether the task ends with what it does by now, once somebody waits for it. -/
def joined? (run : TaskRun) : Option Bool :=
  if run.owner = .awaited then some run.settle.1.task.isFinished else none

end TaskRun

end DebugBridge
