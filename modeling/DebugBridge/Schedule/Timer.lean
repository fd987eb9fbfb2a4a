/-!
# Repeating timers

A timer of a period counts deadlines from the moment it starts, the first one at once.  A tick that
is taken more than a grace time late moves the next deadline to a whole period from now, so that
slow ticks delay later ones instead of bunching them.  Times are milliseconds.
-/

namespace DebugBridge

structure Timer where
  period : Nat
  positive : 0 < period
  deadline : Nat
deriving DecidableEq

namespace Timer

/-- How late a tick may be taken without moving the ones after it. -/
def grace : Nat := 5

def start (period : Nat) (positive : 0 < period) (now : Nat) : Timer :=
  { period, positive, deadline := now }

def isDue (timer : Timer) (now : Nat) : Bool := timer.deadline ≤ now

/-- The timer after a tick taken now. -/
def advance (timer : Timer) (now : Nat) : Timer :=
  { timer with
    deadline :=
      if timer.deadline + grace < now then now + timer.period
      else timer.deadline + timer.period }

theorem deadline_lt_advance (timer : Timer) (now : Nat) :
    timer.deadline < (timer.advance now).deadline := by
  have positive := timer.positive
  unfold advance
  split <;> simp only <;> omega

/-- The timer after every tick that is due has been taken, each at once. -/
def advancePast (timer : Timer) (now : Nat) : Timer :=
  if timer.deadline ≤ now then (timer.advance now).advancePast now else timer
termination_by now + 1 - timer.deadline
decreasing_by
  have later := timer.deadline_lt_advance now
  omega

end Timer

end DebugBridge
