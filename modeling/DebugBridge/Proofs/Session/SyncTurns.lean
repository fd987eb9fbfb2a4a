import DebugBridge.Proofs.Backend.Breakpoints
import DebugBridge.Proofs.Session.Frame

/-!
# Turns of the syncs

At most one sync is at work, and the others wait in the queue, each of them once.  What a sync does
when an event is for it is one of a few moves; every move keeps the turn and the queue in order.
-/

namespace DebugBridge

/-- The sync may call the backend. -/
def SyncStage.isWorking : SyncStage → Bool
  | .starting => false
  | .queued => false
  | _ => true

/-- The breakpoints still to be set once the call of the stage has this outcome, if the sync goes
on. -/
def SyncStage.left? (outcome : Outcome) : SyncStage → Option SyncPlan
  | .clearing plan => (BackendClient.accepted .clearBreakpoints outcome).toOption.map fun _ => plan
  | .setting _ _ plan => some plan
  | _ => none

/-- The stage waits for the outcome of a call. -/
def SyncStage.isCalling : SyncStage → Bool
  | .clearing _ => true
  | .setting _ _ _ => true
  | _ => false

theorem SyncStage.isWorking_of_isCalling (stage : SyncStage) (hcalling : stage.isCalling = true) :
    stage.isWorking = true := by
  cases stage <;> first | rfl | cases hcalling

namespace Session

/-- The stage of the sync with this number. -/
def syncStage? (session : Session) (id : Nat) : Option SyncStage :=
  match session.activity? id with
  | some (.sync stage) => some stage
  | _ => none

theorem syncStage?_eq_some_iff {session : Session} {id : Nat} {stage : SyncStage} :
    session.syncStage? id = some stage ↔ session.activity? id = some (.sync stage) := by
  unfold syncStage?
  split
  · next found hfound => simp [hfound]
  · next hother =>
      simp only [reduceCtorEq, false_iff]
      exact hother stage

theorem exists_stage_of_known {session : Session} {id : Nat} {activity : Activity}
    (hknown : (session.syncStage? id).isSome = true)
    (hactivity : session.activity? id = some activity) : ∃ stage, activity = .sync stage := by
  obtain ⟨stage, hstage⟩ := Option.isSome_iff_exists.mp hknown
  rw [syncStage?_eq_some_iff, hactivity, Option.some.injEq] at hstage
  exact ⟨stage, hstage⟩

theorem syncStage?_congr {session other : Session} {id : Nat}
    (hactivity : other.activity? id = session.activity? id) :
    other.syncStage? id = session.syncStage? id := by
  rw [syncStage?, syncStage?, hactivity]

theorem syncStage?_eq_none_of_ne {session : Session} {id : Nat}
    (hother : ∀ stage, session.activity? id ≠ some (.sync stage)) :
    session.syncStage? id = none := by
  cases hstage : session.syncStage? id with
  | none => rfl
  | some stage => exact absurd (syncStage?_eq_some_iff.mp hstage) (hother stage)

theorem TableOk.syncStage?_eq_none {session : Session} (htable : TableOk session) {id : Nat}
    (hid : session.nextActivity ≤ id) : session.syncStage? id = none :=
  syncStage?_eq_none_of_ne (by simp [htable.activity?_eq_none hid])

/-! ## Stages through other turns -/

section Stages

variable {session : Session} {out : Session × List Effect}

theorem syncStage?_of_silent (hsilent : Silent session out) (id : Nat) :
    out.1.syncStage? id = session.syncStage? id :=
  syncStage?_congr (hsilent.activity? id)

/-- A turn that moves something else than a sync moves no sync. -/
theorem syncStage?_of_local {id : Nat} {allowed : BackendCall → Prop} {mine : Activity → Prop}
    (hlocal : Local id allowed mine session out) (hid : session.syncStage? id = none)
    (hmine : ∀ stage, ¬ mine (.sync stage)) (other : Nat) :
    out.1.syncStage? other = session.syncStage? other := by
  by_cases hother : other = id
  · rw [hother, hid]
    exact syncStage?_eq_none_of_ne fun stage hstage => hmine stage (hlocal.own _ hstage)
  · exact syncStage?_congr (hlocal.others other hother)

theorem syncStage?_of_spawns {fresh : List Activity} (hspawns : Spawns fresh session out)
    (htable : TableOk session) (hfresh : ∀ stage, .sync stage ∉ fresh) (id : Nat) :
    out.1.syncStage? id = session.syncStage? id := by
  have hlookup := hspawns.activity? htable id
  by_cases hid : id < session.nextActivity
  · exact syncStage?_congr (hlookup.trans (if_pos hid))
  · rw [htable.syncStage?_eq_none (Nat.le_of_not_lt hid)]
    rw [if_neg hid] at hlookup
    refine syncStage?_eq_none_of_ne fun stage hstage => ?_
    exact hfresh stage (List.mem_of_getElem? (hlookup.symm.trans hstage))

/-- A new sync behind other new activities is the only one that comes. -/
theorem syncStage?_of_spawns_sync {fresh : List Activity}
    (hspawns : Spawns (fresh ++ [.sync .starting]) session out) (htable : TableOk session)
    (hfresh : ∀ stage, .sync stage ∉ fresh) (id : Nat) :
    out.1.syncStage? id = if id = session.nextActivity + fresh.length then some .starting
      else session.syncStage? id := by
  have hlookup := hspawns.activity? htable id
  by_cases hid : id < session.nextActivity
  · rw [if_neg (by omega)]
    exact syncStage?_congr (hlookup.trans (if_pos hid))
  · rw [if_neg hid] at hlookup
    by_cases hlast : id = session.nextActivity + fresh.length
    · rw [if_pos hlast, syncStage?_eq_some_iff, hlookup, hlast, Nat.add_sub_cancel_left,
        List.getElem?_append_right (Nat.le_refl _), Nat.sub_self]
      rfl
    · rw [if_neg hlast, htable.syncStage?_eq_none (Nat.le_of_not_lt hid)]
      refine syncStage?_eq_none_of_ne fun stage hstage => ?_
      rw [hlookup] at hstage
      rcases Nat.lt_or_ge (id - session.nextActivity) fresh.length with hfront | hbehind
      · rw [List.getElem?_append_left hfront] at hstage
        exact hfresh stage (List.mem_of_getElem? hstage)
      · rw [List.getElem?_eq_none (by rw [List.length_append, List.length_singleton]; omega)]
          at hstage
        cases hstage

theorem syncStage?_of_cancel (htable : TableOk session) {isMeant : Activity → Bool}
    (hkept : ∀ stage, isMeant (.sync stage) = false) (id : Nat) :
    (cancel isMeant session).1.syncStage? id = session.syncStage? id := by
  have hlookup := activity?_cancel htable isMeant id
  cases hstage : session.syncStage? id with
  | some stage =>
      rw [syncStage?_eq_some_iff, hlookup, syncStage?_eq_some_iff.mp hstage]
      simp [hkept stage]
  | none =>
      refine syncStage?_eq_none_of_ne fun stage hafter => ?_
      rw [hlookup, Option.filter_eq_some_iff] at hafter
      rw [syncStage?_eq_some_iff.mpr hafter.1] at hstage
      cases hstage

end Stages

/-- The turn and the queue agree with the stages of the syncs. -/
structure SyncsOk (session : Session) : Prop where
  queued : ∀ id, id ∈ session.syncQueue ↔ session.syncStage? id = some .queued
  nodup : session.syncQueue.Nodup
  working : ∀ id stage, session.syncStage? id = some stage → stage.isWorking = true →
    session.syncTurn = some id
  holder : ∀ id, session.syncTurn = some id →
    ∃ stage, session.syncStage? id = some stage ∧ stage.isWorking = true
  free : session.syncTurn = none → session.syncQueue = []

theorem SyncsOk.ofConfig (config : BackendConfig) : SyncsOk (.ofConfig config) := by
  constructor <;> simp [Session.ofConfig, syncStage?, activity?]

/-- Only the starts of new syncs may happen without a move. -/
theorem SyncsOk.congr {session other : Session} (hsyncs : SyncsOk session)
    (hturn : other.syncTurn = session.syncTurn) (hqueue : other.syncQueue = session.syncQueue)
    (hstages : ∀ id, other.syncStage? id = session.syncStage? id ∨
      session.syncStage? id = none ∧ other.syncStage? id = some .starting) : SyncsOk other where
  queued id := by
    rw [hqueue, hsyncs.queued]
    rcases hstages id with hsame | ⟨hnone, hstarting⟩
    · rw [hsame]
    · simp [hnone, hstarting]
  nodup := by rw [hqueue]; exact hsyncs.nodup
  working id stage hstage hworking := by
    rw [hturn]
    rcases hstages id with hsame | ⟨-, hstarting⟩
    · exact hsyncs.working id stage (hsame.symm.trans hstage) hworking
    · rw [hstarting, Option.some.injEq] at hstage
      rw [← hstage] at hworking
      cases hworking
  holder id hid := by
    obtain ⟨stage, hstage, hworking⟩ := hsyncs.holder id (hturn.symm.trans hid)
    rcases hstages id with hsame | ⟨hnone, -⟩
    · exact ⟨stage, hsame.trans hstage, hworking⟩
    · rw [hnone] at hstage
      cases hstage
  free hnone := hqueue.trans (hsyncs.free (hturn.symm.trans hnone))

/-! ## Moves -/

/-- What a sync can do when an event is for it. -/
inductive SyncMove (id : Nat) (session : Session) :
    SyncStage → SessionEvent → Session × List Effect → Prop
  /-- It waits for something else. -/
  | ignored {stage : SyncStage} {event : SessionEvent}
      (hevent : ∀ outcome, event = .outcome id outcome → stage.isCalling = false) :
      SyncMove id session stage event (session, [])
  | queued {holder : Nat} (hturn : session.syncTurn = some holder) :
      SyncMove id session .starting (.wake id)
        (put id (.sync .queued) { session with syncQueue := session.syncQueue ++ [id] })
  | began {stage : SyncStage} {plan : List (String × Int)}
      (hfirst : stage = .starting ∧ session.syncTurn = none ∨
        stage = .admitted ∧ session.syncTurn = some id)
      (hplan : session.backendBreakpoints = some plan) :
      SyncMove id session stage (.wake id)
        (await id (.sync (.clearing { rest := plan, total := plan.length })) .clearBreakpoints
          { session with syncTurn := some id })
  /-- Nothing is attached, so that there is nothing to sync. -/
  | skipped {stage : SyncStage}
      (hfirst : stage = .starting ∧ session.syncTurn = none ∨
        stage = .admitted ∧ session.syncTurn = some id)
      (hplan : session.backendBreakpoints = none) :
      SyncMove id session stage (.wake id) (endSync id { session with syncTurn := some id })
  | called {stage : SyncStage} {outcome : Outcome} {file : String} {line : Int}
      {rest : List (String × Int)} {total : Nat} {notice : Turn}
      (hcalling : stage.isCalling = true)
      (hleft : stage.left? outcome = some { rest := (file, line) :: rest, total })
      (hnotice : Silent session (notice session)) :
      SyncMove id session stage (.outcome id outcome)
        (notice.andThen (await id (.sync (.setting file line { rest, total }))
          (.setBreakpoint file line)) session)
  | ended {stage : SyncStage} {outcome : Outcome} {notice : Turn}
      (hcalling : stage.isCalling = true)
      (hleft : ∀ plan, stage.left? outcome = some plan → plan.rest = [])
      (hnotice : Silent session (notice session)) :
      SyncMove id session stage (.outcome id outcome) (notice.andThen (endSync id) session)

theorem beginSync_move {id : Nat} {session : Session} {stage : SyncStage}
    (hfirst : stage = .starting ∧ session.syncTurn = none ∨
      stage = .admitted ∧ session.syncTurn = some id) :
    SyncMove id session stage (.wake id) (beginSync id { session with syncTurn := some id }) := by
  cases hplan : session.backendBreakpoints with
  | none =>
      have hturn : beginSync id { session with syncTurn := some id } =
          endSync id { session with syncTurn := some id } := by
        have hsame : backendBreakpoints { session with syncTurn := some id } = none := hplan
        rw [beginSync, hsame]
      rw [hturn]
      exact .skipped hfirst hplan
  | some plan =>
      have hturn : beginSync id { session with syncTurn := some id } =
          await id (.sync (.clearing { rest := plan, total := plan.length })) .clearBreakpoints
            { session with syncTurn := some id } := by
        have hsame : backendBreakpoints { session with syncTurn := some id } = some plan := hplan
        rw [beginSync, hsame]
      rw [hturn]
      exact .began hfirst hplan

/-- After an accepted or a set call the sync goes on with what is left of its plan. -/
theorem syncNext_move {id : Nat} {session : Session} {stage : SyncStage} {outcome : Outcome}
    {plan : SyncPlan} {notice : Turn} (hcalling : stage.isCalling = true)
    (hleft : stage.left? outcome = some plan) (hnotice : Silent session (notice session)) :
    SyncMove id session stage (.outcome id outcome)
      (notice.andThen (syncNext id plan) session) := by
  obtain ⟨rest, total⟩ := plan
  cases rest with
  | nil =>
      have hended : ∀ left, stage.left? outcome = some left → left.rest = [] := by
        intro left hsome
        rw [hleft, Option.some.injEq] at hsome
        rw [← hsome]
      have hlog := silent_log .debug "synced breakpoints to backend" [("count", .int total)]
        (notice session).1
      have hmove : SyncMove id session stage (.outcome id outcome) _ :=
        .ended hcalling hended (hnotice.andThen hlog)
      simpa [syncNext, Turn.andThen, List.append_assoc] using hmove
  | cons place rest => exact .called hcalling hleft hnotice

theorem wakeActivity_sync_move {session : Session} (hsyncs : SyncsOk session) {id : Nat}
    {stage : SyncStage} (hstage : session.activity? id = some (.sync stage)) (now : Nat) :
    SyncMove id session stage (.wake id)
      (wakeActivity now id session (.sync stage) session) := by
  cases stage with
  | starting =>
      cases hturn : session.syncTurn with
      | none =>
          have hstart : wakeActivity now id session (.sync .starting) session =
              beginSync id { session with syncTurn := some id } := by
            simp only [wakeActivity, startSync, hturn]
          rw [hstart]
          exact beginSync_move (.inl ⟨rfl, hturn⟩)
      | some holder =>
          have hstart : wakeActivity now id session (.sync .starting) session =
              put id (.sync .queued)
                { session with syncQueue := session.syncQueue ++ [id] } := by
            simp only [wakeActivity, startSync, hturn]
          rw [hstart]
          exact .queued hturn
  | queued => exact .ignored (by simp)
  | admitted =>
      have hturn : session.syncTurn = some id :=
        hsyncs.working id .admitted (syncStage?_eq_some_iff.mpr hstage) rfl
      have hsame : { session with syncTurn := some id } = session := by rw [← hturn]
      have hmove : SyncMove id session .admitted (.wake id)
          (beginSync id { session with syncTurn := some id }) :=
        beginSync_move (.inr ⟨rfl, hturn⟩)
      rw [hsame] at hmove
      exact hmove
  | clearing plan => exact .ignored (by simp)
  | setting file line plan => exact .ignored (by simp)

theorem outcomeActivity_sync_move (now id : Nat) (outcome : Outcome) (stage : SyncStage)
    (session : Session) :
    SyncMove id session stage (.outcome id outcome)
      (outcomeActivity now id outcome (.sync stage) session) := by
  cases stage with
  | starting => exact .ignored fun _ _ => rfl
  | queued => exact .ignored fun _ _ => rfl
  | admitted => exact .ignored fun _ _ => rfl
  | clearing plan =>
      cases haccepted : BackendClient.accepted .clearBreakpoints outcome with
      | error fault =>
          simp only [outcomeActivity, syncCleared, haccepted]
          refine .ended rfl ?_ (silent_log _ _ _ session)
          simp [SyncStage.left?, haccepted, Except.toOption]
      | ok reply =>
          simp only [outcomeActivity, syncCleared, haccepted]
          have hleft : (SyncStage.clearing plan).left? outcome = some plan := by
            simp [SyncStage.left?, haccepted, Except.toOption]
          have hmove : SyncMove id session (.clearing plan) (.outcome id outcome)
              (Turn.idle.andThen (syncNext id plan) session) :=
            syncNext_move rfl hleft (Silent.refl session)
          exact hmove
  | setting file line plan =>
      cases haccepted : BackendClient.accepted (.setBreakpoint file line) outcome with
      | error fault =>
          simp only [outcomeActivity, syncSet, haccepted]
          exact syncNext_move rfl rfl (silent_log _ _ _ session)
      | ok reply =>
          simp only [outcomeActivity, syncSet, haccepted]
          have hmove : SyncMove id session (.setting file line plan) (.outcome id outcome)
              (Turn.idle.andThen (syncNext id plan) session) :=
            syncNext_move rfl rfl (Silent.refl session)
          exact hmove

/-! ## Order is kept -/

/-- The sync is the one whose turn it is, or finds the turn free. -/
structure MayWork (session : Session) (id : Nat) : Prop where
  unqueued : session.syncStage? id ≠ some .queued
  turn : session.syncTurn = none ∨ session.syncTurn = some id

theorem SyncsOk.mayWork {session : Session} (hsyncs : SyncsOk session) {id : Nat}
    {stage : SyncStage} (hstage : session.syncStage? id = some stage)
    (hworking : stage.isWorking = true) : MayWork session id where
  unqueued hqueued := by
    rw [hstage, Option.some.injEq] at hqueued
    rw [hqueued] at hworking
    cases hworking
  turn := .inr (hsyncs.working id stage hstage hworking)

theorem SyncsOk.mayWork_first {session : Session} (hsyncs : SyncsOk session) {id : Nat}
    {stage : SyncStage} (hstage : session.syncStage? id = some stage)
    (hfirst : stage = .starting ∧ session.syncTurn = none ∨
      stage = .admitted ∧ session.syncTurn = some id) : MayWork session id := by
  rcases hfirst with ⟨rfl, hturn⟩ | ⟨rfl, -⟩
  · refine ⟨?_, .inl hturn⟩
    rw [hstage]
    simp
  · exact hsyncs.mayWork hstage rfl

/-- No other sync is at work beside one that may work. -/
theorem MayWork.eq_of_working {session : Session} {id other : Nat}
    (hmay : MayWork session id) (hsyncs : SyncsOk session) {stage : SyncStage}
    (hstage : session.syncStage? other = some stage) (hworking : stage.isWorking = true) :
    other = id := by
  have hother := hsyncs.working other stage hstage hworking
  rcases hmay.turn with hfree | hheld
  · rw [hfree] at hother
    cases hother
  · rw [hheld, Option.some.injEq] at hother
    exact hother.symm

theorem syncStage?_put {session : Session} {id : Nat} {stage : SyncStage}
    (hknown : (session.syncStage? id).isSome) (other : Nat) :
    (put id (.sync stage) session).1.syncStage? other =
      if other = id then some stage else session.syncStage? other := by
  obtain ⟨old, hold⟩ := Option.isSome_iff_exists.mp hknown
  rw [syncStage?_eq_some_iff] at hold
  split
  · next hother =>
      rw [syncStage?_eq_some_iff, activity?_put_of_some hold, if_pos hother]
  · next hother =>
      apply syncStage?_congr
      rw [activity?_put_of_some hold, if_neg hother]

/-- The one sync that may work goes to work. -/
theorem SyncsOk.work {session base : Session} {id : Nat} {stage : SyncStage}
    (hsyncs : SyncsOk session) (hmay : MayWork session id)
    (hknown : (session.syncStage? id).isSome) (hworking : stage.isWorking = true)
    (hactivities : base.activities = session.activities)
    (hturn : base.syncTurn = some id) (hqueue : base.syncQueue = session.syncQueue) :
    SyncsOk (put id (.sync stage) base).1 := by
  have hbase : ∀ other, base.syncStage? other = session.syncStage? other :=
    fun other => syncStage?_congr (activity?_congr hactivities other)
  have hstage : ∀ other, (put id (.sync stage) base).1.syncStage? other =
      if other = id then some stage else session.syncStage? other := by
    intro other
    rw [syncStage?_put (by rw [hbase]; exact hknown), hbase]
  have hunqueued : stage ≠ .queued := by
    rintro rfl
    cases hworking
  constructor
  · intro other
    show other ∈ base.syncQueue ↔ _
    rw [hqueue, hsyncs.queued, hstage]
    by_cases hother : other = id
    · subst hother
      simp [hmay.unqueued, hunqueued]
    · rw [if_neg hother]
  · show base.syncQueue.Nodup
    rw [hqueue]
    exact hsyncs.nodup
  · intro other found hfound hfoundWorking
    show base.syncTurn = some other
    rw [hstage] at hfound
    by_cases hother : other = id
    · rw [hturn, hother]
    · rw [if_neg hother] at hfound
      exact absurd (hmay.eq_of_working hsyncs hfound hfoundWorking) hother
  · intro other hother
    have hsame : other = id := by
      rw [show (put id (.sync stage) base).1.syncTurn = some id from hturn] at hother
      exact (Option.some.inj hother).symm
    exact ⟨stage, by rw [hstage, if_pos hsame], hworking⟩
  · intro hnone
    rw [show (put id (.sync stage) base).1.syncTurn = some id from hturn] at hnone
    cases hnone

/-- A sync that finds another one at work joins the queue. -/
theorem SyncsOk.join {session : Session} {id holder : Nat} (hsyncs : SyncsOk session)
    (hstarting : session.syncStage? id = some .starting)
    (hturn : session.syncTurn = some holder) :
    SyncsOk (put id (.sync .queued)
      { session with syncQueue := session.syncQueue ++ [id] }).1 := by
  have hstage : ∀ other, (put id (.sync .queued)
      { session with syncQueue := session.syncQueue ++ [id] }).1.syncStage? other =
        if other = id then some .queued else session.syncStage? other :=
    @syncStage?_put { session with syncQueue := session.syncQueue ++ [id] } id .queued
      (Option.isSome_of_eq_some hstarting)
  have hnew : id ∉ session.syncQueue := by
    rw [hsyncs.queued, hstarting]
    simp
  constructor
  · intro other
    show other ∈ session.syncQueue ++ [id] ↔ _
    rw [hstage, List.mem_append, List.mem_singleton, hsyncs.queued]
    by_cases hother : other = id
    · simp [hother]
    · simp [hother]
  · show (session.syncQueue ++ [id]).Nodup
    exact List.nodup_append.mpr ⟨hsyncs.nodup, List.nodup_singleton id, by
      intro queued hqueued last hlast hsame
      rw [List.mem_singleton.mp hlast] at hsame
      exact hnew (hsame ▸ hqueued)⟩
  · intro other found hfound hworking
    rw [hstage] at hfound
    by_cases hother : other = id
    · rw [if_pos hother, Option.some.injEq] at hfound
      rw [← hfound] at hworking
      cases hworking
    · rw [if_neg hother] at hfound
      exact hsyncs.working other found hfound hworking
  · intro other hother
    obtain ⟨found, hfound, hworking⟩ := hsyncs.holder other hother
    refine ⟨found, ?_, hworking⟩
    rw [hstage, if_neg, hfound]
    rintro rfl
    rw [hstarting, Option.some.injEq] at hfound
    rw [← hfound] at hworking
    cases hworking
  · intro hnone
    rw [show (put id (.sync .queued) { session with syncQueue := session.syncQueue ++ [id] }
      ).1.syncTurn = some holder from hturn] at hnone
    cases hnone

/-! ## The end of a sync -/

theorem endSync_last {session : Session} (hqueue : session.syncQueue = []) (id : Nat) :
    endSync id session = ({ (finish id session).1 with syncTurn := none }, []) := by
  have hsame : (finish id session).1.syncQueue = [] := hqueue
  simp only [endSync, Turn.andThen, hsame]
  rfl

theorem endSync_admits {session : Session} {next : Nat} {others : List Nat}
    (hqueue : session.syncQueue = next :: others) (id : Nat) :
    endSync id session =
      ((put next (.sync .admitted)
        { (finish id session).1 with syncTurn := some next, syncQueue := others }).1,
        [.ready next]) := by
  have hsame : (finish id session).1.syncQueue = next :: others := hqueue
  simp only [endSync, Turn.andThen, hsame]
  rfl

theorem endSync_backdrop (id : Nat) (session : Session) :
    (endSync id session).1.backdrop = session.backdrop := by
  cases hqueue : session.syncQueue with
  | nil => rw [endSync_last hqueue]; rfl
  | cons next others => rw [endSync_admits hqueue]; rfl

theorem endSync_syncTurn (id : Nat) (session : Session) :
    (endSync id session).1.syncTurn = session.syncQueue.head? := by
  cases hqueue : session.syncQueue with
  | nil => rw [endSync_last hqueue]; rfl
  | cons next others => rw [endSync_admits hqueue]; rfl

theorem endSync_syncQueue (id : Nat) (session : Session) :
    (endSync id session).1.syncQueue = session.syncQueue.tail := by
  cases hqueue : session.syncQueue with
  | nil =>
      rw [endSync_last hqueue]
      exact hqueue
  | cons next others => rw [endSync_admits hqueue]; rfl

/-- The sync is gone, and the first one in the queue is admitted. -/
theorem activity?_endSync {session base : Session} (hsyncs : SyncsOk session) {id : Nat}
    (hunqueued : session.syncStage? id ≠ some .queued)
    (hactivities : base.activities = session.activities)
    (hqueue : base.syncQueue = session.syncQueue) (other : Nat) :
    (endSync id base).1.activity? other =
      if other = id then none
      else if session.syncQueue.head? = some other then some (.sync .admitted)
      else session.activity? other := by
  cases hshape : session.syncQueue with
  | nil =>
      rw [endSync_last (hqueue.trans hshape)]
      have hfinish := activity?_finish base id other
      rw [activity?_congr hactivities] at hfinish
      simp only [List.head?_nil, reduceCtorEq, if_false]
      exact hfinish
  | cons next others =>
      rw [endSync_admits (hqueue.trans hshape)]
      have hnext : session.activity? next = some (.sync .queued) := by
        rw [← syncStage?_eq_some_iff, ← hsyncs.queued, hshape]
        exact List.mem_cons_self
      have hne : next ≠ id := by
        rintro rfl
        exact hunqueued (syncStage?_eq_some_iff.mpr hnext)
      have hfinished : ∀ other, activity? { (finish id base).1 with
          syncTurn := some next, syncQueue := others } other =
            if other = id then none else session.activity? other := by
        intro other
        rw [← activity?_congr hactivities]
        exact activity?_finish base id other
      rw [activity?_put_of_some (by rw [hfinished, if_neg hne]; exact hnext), hfinished]
      by_cases hother : other = next
      · simp [hother, hne]
      · simp [hother, Ne.symm hother]

theorem syncStage?_endSync {session base : Session} (hsyncs : SyncsOk session) {id : Nat}
    (hunqueued : session.syncStage? id ≠ some .queued)
    (hactivities : base.activities = session.activities)
    (hqueue : base.syncQueue = session.syncQueue) (other : Nat) :
    (endSync id base).1.syncStage? other =
      if other = id then none
      else if session.syncQueue.head? = some other then some .admitted
      else session.syncStage? other := by
  have hactivity := activity?_endSync hsyncs hunqueued hactivities hqueue other
  by_cases hother : other = id
  · rw [syncStage?, hactivity, if_pos hother, if_pos hother]
  · by_cases hhead : session.syncQueue.head? = some other
    · rw [syncStage?, hactivity, if_neg hother, if_neg hother, if_pos hhead, if_pos hhead]
    · rw [syncStage?, hactivity, if_neg hother, if_neg hother, if_neg hhead, if_neg hhead]
      rfl

theorem SyncsOk.endSync {session base : Session} (hsyncs : SyncsOk session) {id : Nat}
    (hmay : MayWork session id) (hactivities : base.activities = session.activities)
    (hqueue : base.syncQueue = session.syncQueue) : SyncsOk (Session.endSync id base).1 := by
  have hstage := syncStage?_endSync hsyncs hmay.unqueued hactivities hqueue
  have hturn := endSync_syncTurn id base
  have hrest := endSync_syncQueue id base
  rw [hqueue] at hturn hrest
  have hidle : ∀ other, other ∈ session.syncQueue → other ≠ id := by
    rintro other hother rfl
    exact hmay.unqueued ((hsyncs.queued other).mp hother)
  constructor
  · intro other
    rw [hrest, hstage]
    have hnodup := hsyncs.nodup
    have hqueued := hsyncs.queued other
    cases hshape : session.syncQueue with
    | nil =>
        rw [hshape] at hqueued
        by_cases hother : other = id
        · simp [hother]
        · simpa [hother] using hqueued
    | cons next others =>
        rw [hshape] at hqueued hnodup hidle
        by_cases hother : other = id
        · have hout : other ∉ others := fun hmem =>
            hidle other (List.mem_cons_of_mem next hmem) hother
          simp [hother, hother ▸ hout]
        · by_cases hnext : next = other
          · have hout : next ∉ others := (List.nodup_cons.mp hnodup).1
            simp [hother, hnext, hnext ▸ hout]
          · simpa [hother, hnext, Ne.symm hnext] using hqueued
  · rw [hrest]
    exact hsyncs.nodup.sublist (List.tail_sublist _)
  · intro other found hfound hworking
    rw [hturn]
    rw [hstage] at hfound
    split at hfound
    · cases hfound
    · next hother =>
        split at hfound
        · next hhead => exact hhead
        · exact absurd (hmay.eq_of_working hsyncs hfound hworking) hother
  · intro other hother
    rw [hturn] at hother
    refine ⟨.admitted, ?_, rfl⟩
    rw [hstage, if_neg (hidle other (List.mem_of_mem_head? hother)), if_pos hother]
  · intro hnone
    rw [hturn, List.head?_eq_none_iff] at hnone
    rw [hrest, hnone]
    rfl

/-! ## What a move leaves alone -/

/-- Only syncs, the turn and the queue are touched, and only breakpoints are written. -/
structure SyncFrame (id : Nat) (session : Session) (out : Session × List Effect) : Prop where
  backdrop : out.1.backdrop = session.backdrop
  table : TableOk out.1
  nextActivity : out.1.nextActivity = session.nextActivity
  others : ∀ other, session.syncStage? other = none →
    out.1.activity? other = session.activity? other
  syncs : ∀ other activity, (session.syncStage? other).isSome = true →
    out.1.activity? other = some activity → ∃ stage, activity = .sync stage
  effects : ∀ effect ∈ out.2, effect.Within (callsFor id BackendCall.WritesBreakpoints)

section SyncFrame

variable {id : Nat} {session : Session}

theorem SyncFrame.refl (htable : TableOk session) : SyncFrame id session (session, []) where
  backdrop := rfl
  table := htable
  nextActivity := rfl
  others _ _ := rfl
  syncs _ _ hknown hactivity := exists_stage_of_known hknown hactivity
  effects := by simp

/-- The sync gets a new stage, and the turn and the queue may be settled beside it. -/
theorem SyncFrame.put (base : Session) (htable : TableOk session)
    (hknown : (session.syncStage? id).isSome = true)
    (hactivities : base.activities = session.activities)
    (hnext : base.nextActivity = session.nextActivity)
    (hbackdrop : base.backdrop = session.backdrop)
    (stage : SyncStage) {effects : List Effect}
    (heffects : ∀ effect ∈ effects, effect.Within (callsFor id BackendCall.WritesBreakpoints)) :
    SyncFrame id session ((Session.put id (.sync stage) base).1, effects) where
  backdrop := hbackdrop
  table := (htable.congr hactivities hnext).put id _
  nextActivity := hnext
  others other hother := by
    have hne : other ≠ id := by
      rintro rfl
      rw [hother] at hknown
      cases hknown
    rw [activity?_put, if_neg hne, activity?_congr hactivities]
  syncs other activity hother hactivity := by
    rw [activity?_put] at hactivity
    split at hactivity
    · obtain ⟨-, -, rfl⟩ := Option.map_eq_some_iff.mp hactivity
      exact ⟨stage, rfl⟩
    · rw [activity?_congr hactivities] at hactivity
      exact exists_stage_of_known hother hactivity
  effects := heffects

theorem SyncFrame.endSync (base : Session) (htable : TableOk session) (hsyncs : SyncsOk session)
    (hmay : MayWork session id) (hknown : (session.syncStage? id).isSome = true)
    (hactivities : base.activities = session.activities)
    (hnext : base.nextActivity = session.nextActivity)
    (hqueue : base.syncQueue = session.syncQueue)
    (hbackdrop : base.backdrop = session.backdrop)
    {effects : List Effect} (heffects : ∀ effect ∈ effects, effect.Within noCall) :
    SyncFrame id session
      ((Session.endSync id base).1, effects ++ (Session.endSync id base).2) where
  backdrop := (endSync_backdrop id base).trans hbackdrop
  table := by
    have hbase := (htable.congr hactivities hnext).finish id
    cases hshape : base.syncQueue with
    | nil =>
        rw [endSync_last hshape]
        exact hbase.congr rfl rfl
    | cons next others =>
        rw [endSync_admits hshape]
        have hadmits : TableOk { (Session.finish id base).1 with
            syncTurn := some next, syncQueue := others } := hbase.congr rfl rfl
        exact hadmits.put next _
  nextActivity := by
    cases hshape : base.syncQueue with
    | nil => rw [endSync_last hshape]; exact hnext
    | cons next others => rw [endSync_admits hshape]; exact hnext
  others other hother := by
    have hne : other ≠ id := by
      rintro rfl
      rw [hother] at hknown
      cases hknown
    have hhead : session.syncQueue.head? ≠ some other := by
      intro hhead
      have hqueued := (hsyncs.queued other).mp (List.mem_of_mem_head? hhead)
      rw [hother] at hqueued
      cases hqueued
    rw [activity?_endSync hsyncs hmay.unqueued hactivities hqueue, if_neg hne, if_neg hhead]
  syncs other activity hother hactivity := by
    rw [activity?_endSync hsyncs hmay.unqueued hactivities hqueue] at hactivity
    split at hactivity
    · cases hactivity
    · split at hactivity
      · exact ⟨.admitted, (Option.some.inj hactivity).symm⟩
      · exact exists_stage_of_known hother hactivity
  effects := by
    rw [List.forall_mem_append]
    refine ⟨fun effect heffect => (heffects effect heffect).of_noCall _, ?_⟩
    cases hshape : base.syncQueue with
    | nil =>
        rw [endSync_last hshape]
        simp
    | cons next others =>
        rw [endSync_admits hshape]
        simp [Effect.Within]

theorem SyncMove.frame {stage : SyncStage} {event : SessionEvent} {out : Session × List Effect}
    (hmove : SyncMove id session stage event out) (htable : TableOk session)
    (hsyncs : SyncsOk session) (hstage : session.syncStage? id = some stage) :
    SyncFrame id session out := by
  have hknown : (session.syncStage? id).isSome = true := Option.isSome_of_eq_some hstage
  cases hmove with
  | ignored => exact SyncFrame.refl htable
  | queued hturn =>
      exact SyncFrame.put { session with syncQueue := session.syncQueue ++ [id] } htable hknown
        rfl rfl rfl .queued (by simp)
  | began hfirst hplan =>
      exact SyncFrame.put { session with syncTurn := some id } htable hknown rfl rfl rfl
        _ (by simp [Effect.Within, callsFor, BackendCall.WritesBreakpoints])
  | skipped hfirst hplan =>
      have hframe : SyncFrame id session
          ((Session.endSync id { session with syncTurn := some id }).1,
            [] ++ (Session.endSync id { session with syncTurn := some id }).2) :=
        SyncFrame.endSync { session with syncTurn := some id } htable hsyncs
          (hsyncs.mayWork_first hstage hfirst) hknown rfl rfl rfl rfl (by simp)
      exact hframe
  | called hcalling hleft hnotice =>
      refine SyncFrame.put _ htable hknown hnotice.activities hnotice.nextActivity
        hnotice.backdrop _ (List.forall_mem_append.mpr ⟨?_, ?_⟩)
      · exact fun effect heffect => (hnotice.effects effect heffect).of_noCall _
      · simp [Effect.Within, callsFor, BackendCall.WritesBreakpoints]
  | ended hcalling hleft hnotice =>
      exact SyncFrame.endSync _ htable hsyncs (hsyncs.mayWork hstage (stage.isWorking_of_isCalling
        hcalling)) hknown hnotice.activities hnotice.nextActivity hnotice.syncQueue
        hnotice.backdrop hnotice.effects

/-- A move keeps the turn and the queue in order. -/
theorem SyncMove.syncsOk {stage : SyncStage} {event : SessionEvent} {out : Session × List Effect}
    (hmove : SyncMove id session stage event out) (hsyncs : SyncsOk session)
    (hstage : session.syncStage? id = some stage) : SyncsOk out.1 := by
  have hknown : (session.syncStage? id).isSome = true := Option.isSome_of_eq_some hstage
  cases hmove with
  | ignored => exact hsyncs
  | queued hturn => exact hsyncs.join hstage hturn
  | began hfirst hplan =>
      exact hsyncs.work (hsyncs.mayWork_first hstage hfirst) hknown rfl rfl rfl rfl
  | skipped hfirst hplan =>
      exact hsyncs.endSync (hsyncs.mayWork_first hstage hfirst) rfl rfl
  | called hcalling hleft hnotice =>
      have hworking := stage.isWorking_of_isCalling hcalling
      exact hsyncs.work (hsyncs.mayWork hstage hworking) hknown rfl hnotice.activities
        (hnotice.syncTurn.trans (hsyncs.working id stage hstage hworking)) hnotice.syncQueue
  | ended hcalling hleft hnotice =>
      exact hsyncs.endSync (hsyncs.mayWork hstage (stage.isWorking_of_isCalling hcalling))
        hnotice.activities hnotice.syncQueue

end SyncFrame

end Session

end DebugBridge
