import DebugBridge.Proofs.Schedule.Moves

/-!
# Ticks of a repeating task

The ticks of a repeating task follow one another, however long they last.  A tick that is taken
late moves the later ones with it, except for the grace time of its timer, so that no two ticks are
closer than their periods but for that.  Where no tick is longer than the period, all are taken on
time.
-/

namespace DebugBridge

/-- The moments at which ticks start. -/
def startsIn (events : List TaskEvent) : List Nat :=
  events.filterMap fun
    | .started now => some now
    | _ => none

/-- What is logged by ticks that follow one another, each with its start and its end, and by one
that still goes on. -/
def tickLog (done : List (Nat × Nat)) (running : Option Nat) : List TaskEvent :=
  done.flatMap (fun tick => [.started tick.1, .ended tick.2]) ++ (running.map .started).toList

@[simp]
theorem startsIn_append (first second : List TaskEvent) :
    startsIn (first ++ second) = startsIn first ++ startsIn second := List.filterMap_append

theorem startsIn_tickLog (done : List (Nat × Nat)) (running : Option Nat) :
    startsIn (tickLog done running) = done.map (·.1) ++ running.toList := by
  have hdone : startsIn (done.flatMap fun tick => [.started tick.1, .ended tick.2]) =
      done.map (·.1) := by
    induction done with
    | nil => rfl
    | cons tick done ih =>
        rw [List.flatMap_cons, startsIn_append, ih]
        rfl
  rw [tickLog, startsIn_append, hdone]
  cases running <;> rfl

theorem tickLog_start (done : List (Nat × Nat)) (now : Nat) :
    tickLog done none ++ [.started now] = tickLog done (some now) := by
  simp [tickLog]

theorem tickLog_end (done : List (Nat × Nat)) (start now : Nat) :
    tickLog done (some start) ++ [.ended now] = tickLog (done ++ [(start, now)]) none := by
  simp [tickLog]

/-! ## Distances -/

/-- No two starts are closer than so many periods as lie between them, but for the grace time, and
none is before its turn. -/
structure Apart (period : Nat) (starts : List Nat) : Prop where
  distance : ∀ i j first second, i < j → starts[i]? = some first → starts[j]? = some second →
    first + (j - i) * period ≤ second + Timer.grace
  turn : ∀ i first, starts[i]? = some first → i * period ≤ first

/-- A next start at the deadline would keep its distance. -/
structure LeadsTo (period : Nat) (starts : List Nat) (deadline : Nat) : Prop where
  distance : ∀ i first, starts[i]? = some first →
    first + (starts.length - i) * period ≤ deadline + Timer.grace
  turn : starts.length * period ≤ deadline

theorem getElem?_snoc_eq_some {α : Type} {xs : List α} {last x : α} {i : Nat} :
    (xs ++ [last])[i]? = some x ↔ xs[i]? = some x ∨ i = xs.length ∧ last = x := by
  rcases Nat.lt_trichotomy i xs.length with hless | rfl | hmore
  · rw [List.getElem?_append_left hless, or_iff_left]
    omega
  · simp
  · rw [List.getElem?_eq_none (by simp; omega), List.getElem?_eq_none (by omega)]
    simp only [reduceCtorEq, false_or, false_iff, not_and]
    omega

section Distances

variable {period now : Nat} {starts : List Nat} {timer : Timer}

theorem Apart.snoc (hapart : Apart period starts) (hleads : LeadsTo period starts timer.deadline)
    (hdue : timer.deadline ≤ now) : Apart period (starts ++ [now]) := by
  constructor
  · intro i j first second hless hfirst hsecond
    rcases getElem?_snoc_eq_some.mp hsecond with hsecond | ⟨rfl, rfl⟩
    · have hlength := (List.getElem?_eq_some_iff.mp hsecond).1
      rw [List.getElem?_append_left (by omega)] at hfirst
      exact hapart.distance i j first second hless hfirst hsecond
    · rw [List.getElem?_append_left hless] at hfirst
      have hdistance := hleads.distance i first hfirst
      omega
  · intro i first hfirst
    rcases getElem?_snoc_eq_some.mp hfirst with hfirst | ⟨rfl, rfl⟩
    · exact hapart.turn i first hfirst
    · exact Nat.le_trans hleads.turn hdue

/-- Whether a tick was late or not, its timer goes on to a deadline at the right distance. -/
theorem LeadsTo.advance (hleads : LeadsTo period starts timer.deadline)
    (hperiod : timer.period = period) :
    LeadsTo period (starts ++ [now]) (timer.advance now).deadline := by
  have hlater : timer.deadline + period ≤ (timer.advance now).deadline ∧
      now + period ≤ (timer.advance now).deadline + Timer.grace := by
    rw [← hperiod, Timer.advance]
    dsimp only
    split <;> omega
  have hlength : (starts ++ [now]).length = starts.length + 1 := List.length_append
  constructor
  · intro i first hfirst
    rw [hlength]
    rcases getElem?_snoc_eq_some.mp hfirst with hfirst | ⟨rfl, rfl⟩
    · have hless := (List.getElem?_eq_some_iff.mp hfirst).1
      have hdistance := hleads.distance i first hfirst
      rw [Nat.succ_sub (Nat.le_of_lt hless), Nat.succ_mul]
      omega
    · rw [Nat.add_sub_cancel_left, Nat.one_mul]
      exact hlater.2
  · have hturn := hleads.turn
    rw [hlength, Nat.succ_mul]
    omega

end Distances

/-! ## What has happened at a stage -/

/-- Ticks that have followed one another so far. -/
structure TickHistory (period : Nat) (lengths : List Nat) (now : Nat) (done : List (Nat × Nat))
    (running : Option Nat) : Prop where
  apart : Apart period (done.map (·.1) ++ running.toList)
  lasts : ∀ i tick, done[i]? = some tick → tick.2 = tick.1 + lengths.getD i 0
  orderly : ∀ i tick next, done[i]? = some tick →
    (done.map (·.1) ++ running.toList)[i + 1]? = some next → tick.2 ≤ next
  past : ∀ tick ∈ done, tick.2 ≤ now

/-- What a repeating task can have logged when it is at a stage. -/
inductive Ticked (period : Nat) (lengths : List Nat) (lastTick : Option Nat) (now : Nat) :
    List TaskEvent → TaskStage → Prop
  | starting : Ticked period lengths lastTick now [] .starting
  | waiting {done : List (Nat × Nat)} {timer : Timer}
      (hhistory : TickHistory period lengths now done none) (hperiod : timer.period = period)
      (hleads : LeadsTo period (done.map (·.1)) timer.deadline)
      (hmore : ∀ last ∈ lastTick, done.length ≤ last) :
      Ticked period lengths lastTick now (tickLog done none) (.waiting timer done.length)
  | ticking {done : List (Nat × Nat)} {start : Nat} {timer : Timer}
      (hhistory : TickHistory period lengths now done (some start))
      (hperiod : timer.period = period)
      (hleads : LeadsTo period (done.map (·.1) ++ [start]) timer.deadline)
      (hmore : ∀ last ∈ lastTick, done.length ≤ last)
      (hgoesOn : now ≤ start + lengths.getD done.length 0) :
      Ticked period lengths lastTick now (tickLog done (some start))
        (.ticking timer done.length (start + lengths.getD done.length 0))
  | finished {done : List (Nat × Nat)} {last : Nat}
      (hhistory : TickHistory period lengths now done none) (hlast : lastTick = some last)
      (hlength : done.length = last + 1) :
      Ticked period lengths lastTick now (tickLog done none) .finished

section Histories

variable {period now : Nat} {lengths : List Nat} {lastTick : Option Nat} {timer : Timer}
  {done : List (Nat × Nat)} {running : Option Nat} {start : Nat}
  {events before first : List TaskEvent} {stage next : TaskStage}

theorem TickHistory.empty (period : Nat) (lengths : List Nat) (now : Nat) :
    TickHistory period lengths now [] none where
  apart := ⟨fun _ _ _ _ _ hfirst => (nomatch hfirst), fun _ _ hfirst => (nomatch hfirst)⟩
  lasts _ _ htick := nomatch htick
  orderly _ _ _ htick := nomatch htick
  past _ htick := nomatch htick

theorem TickHistory.tickStarted (hhistory : TickHistory period lengths now done none)
    (hleads : LeadsTo period (done.map (·.1)) timer.deadline) (hdue : timer.deadline ≤ now) :
    TickHistory period lengths now done (some now) where
  apart := by
    have hapart := hhistory.apart
    rw [Option.toList_none, List.append_nil] at hapart
    exact hapart.snoc hleads hdue
  lasts := hhistory.lasts
  orderly i tick next htick hnext := by
    rw [Option.toList_some] at hnext
    rcases getElem?_snoc_eq_some.mp hnext with hnext | ⟨-, rfl⟩
    · refine hhistory.orderly i tick next htick ?_
      rwa [Option.toList_none, List.append_nil]
    · exact hhistory.past tick (List.mem_of_getElem? htick)
  past := hhistory.past

/-- A tick that ends when its time is over has lasted as long as it should. -/
theorem TickHistory.tickEnded (hhistory : TickHistory period lengths now done (some start))
    (hending : now = start + lengths.getD done.length 0) :
    TickHistory period lengths now (done ++ [(start, now)]) none := by
  have hstarts : (done ++ [(start, now)]).map (·.1) ++ (none : Option Nat).toList =
      done.map (·.1) ++ (some start).toList := by simp
  constructor
  · rw [hstarts]
    exact hhistory.apart
  · intro i tick htick
    rcases getElem?_snoc_eq_some.mp htick with htick | ⟨rfl, rfl⟩
    · exact hhistory.lasts i tick htick
    · exact hending
  · intro i tick next htick hnext
    rw [hstarts] at hnext
    rcases getElem?_snoc_eq_some.mp htick with htick | ⟨rfl, rfl⟩
    · exact hhistory.orderly i tick next htick hnext
    · rw [List.getElem?_eq_none (by simp)] at hnext
      cases hnext
  · intro tick htick
    rcases List.mem_append.mp htick with hold | hnew
    · exact hhistory.past tick hold
    · obtain rfl := List.mem_singleton.mp hnew
      exact Nat.le_refl now

theorem TickHistory.pass (hhistory : TickHistory period lengths now done running) :
    TickHistory period lengths (now + 1) done running :=
  { hhistory with past := fun tick htick => Nat.le_succ_of_le (hhistory.past tick htick) }

/-- A move keeps the ticks in their order and at their distances. -/
theorem Ticked.move (positive : 0 < period)
    (hticked : Ticked period lengths lastTick now before stage)
    (hmove : BodyMove now (.every period lengths lastTick) stage first next) :
    Ticked period lengths lastTick now (before ++ first) next := by
  cases hmove with
  | wind =>
      cases hticked
      exact .waiting (.empty period lengths now) rfl
        ⟨fun _ _ hfirst => (nomatch hfirst), by simp⟩ fun _ _ => Nat.zero_le _
  | giveUp => exact absurd positive (Nat.lt_irrefl 0)
  | startTick hdue =>
      cases hticked with
      | waiting hhistory hperiod hleads hmore =>
          rw [tickLog_start]
          exact .ticking (hhistory.tickStarted hleads hdue) hperiod (hleads.advance hperiod) hmore
            (Nat.le_add_right _ _)
  | endTick hover hother =>
      cases hticked with
      | @ticking done start timer hhistory hperiod hleads hmore hgoesOn =>
          have hended := hhistory.tickEnded (Nat.le_antisymm hgoesOn hover)
          have hlength : (done ++ [(start, now)]).length = done.length + 1 := List.length_append
          rw [tickLog_end, ← hlength]
          exact .waiting hended hperiod (by simpa using hleads)
            (hlength ▸ more_of_ne hother hmore)
  | endLastTick hover hlast =>
      cases hticked with
      | ticking hhistory hperiod hleads hmore hgoesOn =>
          rw [tickLog_end]
          exact .finished (hhistory.tickEnded (Nat.le_antisymm hgoesOn hover)) hlast (by simp)

theorem Ticked.pass (hticked : Ticked period lengths lastTick now events stage)
    (hrests : Rests now (.every period lengths lastTick) stage) :
    Ticked period lengths lastTick (now + 1) events stage := by
  cases hticked with
  | starting => exact .starting
  | waiting hhistory hperiod hleads hmore => exact .waiting hhistory.pass hperiod hleads hmore
  | ticking hhistory hperiod hleads hmore hgoesOn =>
      exact .ticking hhistory.pass hperiod hleads hmore (rests_ticking_iff.mp hrests)
  | finished hhistory hlast hlength => exact .finished hhistory.pass hlast hlength

end Histories

/-! ## Ticks that are no longer than the period -/

/-- The first turns of ticks that are taken on time. -/
def turns (period count : Nat) : List Nat := (List.range count).map (· * period)

theorem turns_succ (period count : Nat) :
    turns period (count + 1) = turns period count ++ [count * period] := by
  rw [turns, List.range_succ, List.map_append]
  rfl

theorem getElem?_turns (period count i : Nat) :
    (turns period count)[i]? = if i < count then some (i * period) else none := by
  rw [turns, List.getElem?_map]
  split
  · next hless => rw [List.getElem?_range hless, Option.map_some]
  · next hmore =>
      rw [List.getElem?_eq_none (by simpa using hmore)]
      rfl

/-- What a repeating task has logged when it is at a stage, if all its ticks were on time. -/
inductive Prompt (period : Nat) (lastTick : Option Nat) (now : Nat) :
    List TaskEvent → TaskStage → Prop
  | starting (hnow : now = 0) : Prompt period lastTick now [] .starting
  | waiting {events : List TaskEvent} {timer : Timer} {tick : Nat} (hperiod : timer.period = period)
      (hdeadline : timer.deadline = tick * period) (hearly : now ≤ timer.deadline)
      (hnext : timer.deadline ≤ now + period) (hmore : ∀ last ∈ lastTick, tick ≤ last)
      (hturns : startsIn events = turns period tick) :
      Prompt period lastTick now events (.waiting timer tick)
  | ticking {events : List TaskEvent} {timer : Timer} {tick ending : Nat}
      (hperiod : timer.period = period) (hdeadline : timer.deadline = (tick + 1) * period)
      (hnext : timer.deadline ≤ now + period) (hgoesOn : now ≤ ending)
      (hshort : ending ≤ timer.deadline) (hmore : ∀ last ∈ lastTick, tick ≤ last)
      (hturns : startsIn events = turns period (tick + 1)) :
      Prompt period lastTick now events (.ticking timer tick ending)
  | finished {events : List TaskEvent} {last : Nat} (hlast : lastTick = some last)
      (hnow : last * period ≤ now) (hturns : startsIn events = turns period (last + 1)) :
      Prompt period lastTick now events .finished

section Prompt

variable {period now : Nat} {lengths : List Nat} {lastTick : Option Nat}
  {events before first : List TaskEvent} {stage next : TaskStage}

theorem Prompt.move (positive : 0 < period)
    (hshort : ∀ tick, tick * period ≤ now → lengths.getD tick 0 ≤ period)
    (hprompt : Prompt period lastTick now before stage)
    (hmove : BodyMove now (.every period lengths lastTick) stage first next) :
    Prompt period lastTick now (before ++ first) next := by
  cases hmove with
  | wind =>
      cases hprompt with
      | starting hnow =>
          subst hnow
          exact .waiting rfl (Nat.zero_mul period).symm (Nat.zero_le _) (Nat.zero_le _)
            (fun _ _ => Nat.zero_le _) rfl
  | giveUp => exact absurd positive (Nat.lt_irrefl 0)
  | @startTick _ _ _ timer tick hdue =>
      cases hprompt with
      | waiting hperiod hdeadline hearly hnext hmore hturns =>
          -- The tick before was over in time, so this one starts on its deadline.
          obtain rfl : now = timer.deadline := Nat.le_antisymm hearly hdue
          have hlength := hshort tick (Nat.le_of_eq hdeadline.symm)
          have hadvance : (timer.advance timer.deadline).deadline = timer.deadline + period := by
            rw [← hperiod]
            exact if_neg (Nat.not_lt.mpr (Nat.le_add_right _ _))
          refine .ticking hperiod ?_ (Nat.le_of_eq hadvance) (Nat.le_add_right _ _) ?_ hmore ?_
          · rw [hadvance, hdeadline, Nat.succ_mul]
          · rw [hadvance]
            exact Nat.add_le_add_left hlength _
          · rw [startsIn_append, hturns, turns_succ, hdeadline]
            rfl
  | endTick hover hother =>
      cases hprompt with
      | ticking hperiod hdeadline hnext hgoesOn hshort hmore hturns =>
          refine .waiting hperiod hdeadline (by omega) hnext (more_of_ne hother hmore) ?_
          rw [startsIn_append, hturns]
          exact List.append_nil _
  | endLastTick hover hlast =>
      cases hprompt with
      | ticking hperiod hdeadline hnext hgoesOn hshort hmore hturns =>
          refine .finished hlast ?_ ?_
          · rw [hdeadline, Nat.succ_mul] at hnext
            omega
          · rw [startsIn_append, hturns]
            exact List.append_nil _

theorem Prompt.pass (hprompt : Prompt period lastTick now events stage)
    (hrests : Rests now (.every period lengths lastTick) stage) (positive : 0 < period) :
    Prompt period lastTick (now + 1) events stage := by
  cases hprompt with
  | starting => exact absurd (.wind positive) (hrests _ _)
  | waiting hperiod hdeadline hearly hnext hmore hturns =>
      exact .waiting hperiod hdeadline (rests_waiting_iff.mp hrests) (by omega) hmore hturns
  | ticking hperiod hdeadline hnext hgoesOn hshort hmore hturns =>
      exact .ticking hperiod hdeadline (by omega) (rests_ticking_iff.mp hrests) hshort hmore hturns
  | finished hlast hnow hturns => exact .finished hlast (Nat.le_succ_of_le hnow) hturns

/-- While the task rests, just those ticks have been taken whose turn has come. -/
theorem Prompt.turns (hprompt : Prompt period lastTick now events stage)
    (hrests : Rests now (.every period lengths lastTick) stage) (positive : 0 < period) :
    ∃ count, startsIn events = turns period count ∧
      ∀ tick, tick < count ↔ tick * period ≤ now ∧ ∀ last ∈ lastTick, tick ≤ last := by
  cases hprompt with
  | starting => exact absurd (.wind positive) (hrests _ _)
  | waiting hperiod hdeadline hearly hnext hmore hturns =>
      refine ⟨_, hturns, fun tick => ⟨fun hless => ?_, fun ⟨hpast, _⟩ => ?_⟩⟩
      · have hbefore := Nat.mul_le_mul_right period hless
        rw [Nat.succ_mul] at hbefore
        exact ⟨by omega, fun last hlast => Nat.le_trans (Nat.le_of_lt hless) (hmore last hlast)⟩
      · have hfuture := rests_waiting_iff.mp hrests
        exact Nat.lt_of_mul_lt_mul_right (Nat.lt_of_le_of_lt hpast (hdeadline ▸ hfuture))
  | ticking hperiod hdeadline hnext hgoesOn hshort hmore hturns =>
      refine ⟨_, hturns, fun tick => ⟨fun hless => ?_, fun ⟨hpast, _⟩ => ?_⟩⟩
      · have hbefore := Nat.mul_le_mul_right period (Nat.le_of_lt_succ hless)
        rw [hdeadline, Nat.succ_mul] at hnext
        exact ⟨by omega,
          fun last hlast => Nat.le_trans (Nat.le_of_lt_succ hless) (hmore last hlast)⟩
      · have hfuture := Nat.lt_of_lt_of_le (rests_ticking_iff.mp hrests) hshort
        exact Nat.lt_of_mul_lt_mul_right (Nat.lt_of_le_of_lt hpast (hdeadline ▸ hfuture))
  | @finished _ last hlast hnow hturns =>
      refine ⟨_, hturns, fun tick => ⟨fun hless => ?_, fun ⟨_, hturn⟩ => ?_⟩⟩
      · have hbefore := Nat.mul_le_mul_right period (Nat.le_of_lt_succ hless)
        refine ⟨Nat.le_trans hbefore hnow, fun other hother => ?_⟩
        obtain rfl : last = other := Option.some.inj (hlast.symm.trans hother)
        exact Nat.le_of_lt_succ hless
      · exact Nat.lt_succ_of_le (hturn last hlast)

end Prompt

/-! ## Runs under the clock -/

section Clock

variable {period : Nat} (positive : 0 < period) (lengths : List Nat) (lastTick : Option Nat)
  (milliseconds : Nat)

include positive

/-- At all times the ticks have followed one another at their distances, up to the last one. -/
theorem ticks_log :
    let events := TaskRun.log (.every period lengths lastTick) milliseconds
    ∃ done running, events = tickLog done running ∧
      TickHistory period lengths milliseconds done running ∧
      ∀ last ∈ lastTick, (startsIn events).length ≤ last + 1 := by
  intro events
  obtain ⟨stage, hticked, -⟩ := TaskRun.log_induction
    (motive := Ticked period lengths lastTick) (.move positive) .pass .starting milliseconds
  change Ticked period lengths lastTick milliseconds events stage at hticked
  generalize events = events at hticked ⊢
  cases hticked with
  | starting => exact ⟨[], none, rfl, .empty _ _ _, fun _ _ => Nat.zero_le _⟩
  | waiting hhistory hperiod hleads hmore =>
      refine ⟨_, _, rfl, hhistory, fun last hlast => ?_⟩
      rw [startsIn_tickLog]
      simpa using Nat.le_succ_of_le (hmore last hlast)
  | ticking hhistory hperiod hleads hmore hgoesOn =>
      refine ⟨_, _, rfl, hhistory, fun last hlast => ?_⟩
      rw [startsIn_tickLog]
      simpa using hmore last hlast
  | finished hhistory hlast hlength =>
      refine ⟨_, _, rfl, hhistory, fun other hother => ?_⟩
      obtain rfl := Option.some.inj (hlast.symm.trans hother)
      rw [startsIn_tickLog]
      simpa using Nat.le_of_eq hlength

/-- If no tick that can start by then is longer than the period, each one starts in its turn. -/
theorem startsIn_log_of_short
    (hshort : ∀ tick, tick * period ≤ milliseconds → lengths.getD tick 0 ≤ period) (tick : Nat) :
    (startsIn (TaskRun.log (.every period lengths lastTick) milliseconds))[tick]? =
      if tick * period ≤ milliseconds ∧ ∀ last ∈ lastTick, tick ≤ last then some (tick * period)
      else none := by
  obtain ⟨stage, hprompt, hrests⟩ := TaskRun.log_induction
    (motive := fun now events stage =>
      now ≤ milliseconds → Prompt period lastTick now events stage)
    (fun hbefore hmove hnow => (hbefore hnow).move positive
      (fun tick hturn => hshort tick (Nat.le_trans hturn hnow)) hmove)
    (fun hbefore hrests hnow => (hbefore (Nat.le_of_lt hnow)).pass hrests positive)
    (fun _ => .starting rfl) milliseconds
  obtain ⟨count, hturns, hcount⟩ := (hprompt (Nat.le_refl _)).turns hrests positive
  rw [hturns, getElem?_turns]
  simp only [hcount]

end Clock

/-- However long ticks last (`duration`, of which a run of some milliseconds gets to see no more
than as many), each ends before the next one starts, and no two start closer to each other than so
many periods as lie between them, less five milliseconds.  If none is longer than the period, they
start at its multiples exactly.  After the last tick there is none. -/
theorem ticks_keep_their_distance {period : Nat} (positive : 0 < period) (duration : Nat → Nat)
    (lastTick : Option Nat) (milliseconds : Nat) {lengths : List Nat}
    (hlengths : ∀ tick ≤ milliseconds, lengths.getD tick 0 = duration tick) :
    let events := TaskRun.log (.every period lengths lastTick) milliseconds
    ∃ done running, events = tickLog done running ∧
      (∀ i tick, done[i]? = some tick → tick.2 = tick.1 + duration i) ∧
      (∀ i tick next, done[i]? = some tick → (startsIn events)[i + 1]? = some next →
        tick.2 ≤ next) ∧
      (∀ i j first second, i < j → (startsIn events)[i]? = some first →
        (startsIn events)[j]? = some second → first + (j - i) * period ≤ second + 5) ∧
      ((∀ tick, duration tick ≤ period) → ∀ tick, (startsIn events)[tick]? =
        if tick * period ≤ milliseconds ∧ ∀ last ∈ lastTick, tick ≤ last then some (tick * period)
        else none) ∧
      ∀ last ∈ lastTick, (startsIn events).length ≤ last + 1 := by
  intro events
  obtain ⟨done, running, hlog, hhistory, hlast⟩ :=
    ticks_log positive lengths lastTick milliseconds
  have hstarts : startsIn events = done.map (·.1) ++ running.toList := by
    rw [← startsIn_tickLog, ← hlog]
  have hreached : ∀ tick, tick * period ≤ milliseconds → tick ≤ milliseconds :=
    fun tick hturn => Nat.le_trans (Nat.le_mul_of_pos_right tick positive) hturn
  refine ⟨done, running, hlog, fun i tick htick => ?_, ?_, ?_, fun hshort => ?_, hlast⟩
  · have hlasts := hhistory.lasts i tick htick
    have hpast := hhistory.past tick (List.mem_of_getElem? htick)
    have hturn := hhistory.apart.turn i tick.1 (by
      rw [List.getElem?_append_left (by simpa using (List.getElem?_eq_some_iff.mp htick).1),
        List.getElem?_map, htick, Option.map_some])
    rwa [hlengths i (hreached i (by omega))] at hlasts
  · rw [hstarts]
    exact hhistory.orderly
  · rw [hstarts]
    exact hhistory.apart.distance
  · refine startsIn_log_of_short positive lengths lastTick milliseconds fun tick hturn => ?_
    rw [hlengths tick (hreached tick hturn)]
    exact hshort tick

/-- The third tick lasts two milliseconds into the turn of the fourth, whose timer does not mind. -/
theorem ticks_keep_their_distance_late :
    let lengths := [25, 3, 12]
    let starts := startsIn (TaskRun.log (.every 10 lengths (some 4)) 90)
    0 < 10 ∧ (∀ tick ≤ 90, lengths.getD tick 0 = lengths.getD tick 0) ∧
      starts = [0, 25, 35, 47, 55] ∧ 47 + (4 - 3) * 10 ≤ 55 + 5 ∧ starts.length ≤ 4 + 1 := by
  have hstarts : startsIn (TaskRun.log (.every 10 [25, 3, 12] (some 4)) 90) =
      [0, 25, 35, 47, 55] := by decide +kernel
  obtain ⟨done, running, -, -, -, hdistance, -, hlast⟩ :=
    ticks_keep_their_distance (by decide : 0 < 10) (fun tick => [25, 3, 12].getD tick 0) (some 4) 90
      fun _ _ => rfl
  rw [hstarts] at hdistance
  exact ⟨by decide, fun _ _ => rfl, hstarts, hdistance 3 4 47 55 (by decide) rfl rfl, hlast 4 rfl⟩

end DebugBridge
