import DebugBridge.Proofs.Session.Runs
import DebugBridge.Proofs.Session.SyncBlocks

/-!
# Syncs over a run

Along every run the calls that write breakpoints, and their answers, are blocks, one behind the
other and one for every time that a sync was due.  Only the last block can be under way.
-/

namespace DebugBridge

/-- A sync that has made no call. -/
def Activity.isPendingSync : Activity → Bool
  | .sync stage => !stage.isCalling
  | _ => false

namespace Session

/-! ## What can be seen -/

/-- The stage of the sync, if it waits for the outcome of a call. -/
def callingStage? (session : Session) (id : Nat) : Option SyncStage :=
  (session.syncStage? id).filter SyncStage.isCalling

def isPendingSync (session : Session) (id : Nat) : Bool :=
  (session.syncStage? id).any fun stage => !stage.isCalling

def pendingSyncs (session : Session) : List Nat := session.idsOf Activity.isPendingSync

/-- The answer to the call of a sync. -/
def answerMarks (session : Session) : SessionEvent → List SyncMark
  | .outcome id outcome =>
    match session.callingStage? id with
    | some stage => [.answered id (stage.accepts outcome)]
    | none => []
  | _ => []

/-- The calls that write breakpoints. -/
def callMarks (session : Session) (effects : List Effect) : List SyncMark :=
  effects.filterMap fun
    | .call id .clearBreakpoints => some (.clear id session.backendBreakpoints)
    | .call id (.setBreakpoint file line) => some (.set id file line)
    | _ => none

def syncMarks (session : Session) (event : SessionEvent) (out : Session × List Effect) :
    List SyncMark :=
  session.answerMarks event ++ session.callMarks out.2

/-- What can be seen of the syncs in a step. -/
def stepMarks (session : Session) (now : Nat) (event : SessionEvent) : List SyncMark :=
  session.syncMarks event (step now event session)

/-- All that can be seen of the syncs over a run. -/
def syncTrace : List (Nat × SessionEvent) → Session → List SyncMark
  | [], _ => []
  | (now, event) :: events, session =>
    session.stepMarks now event ++ syncTrace events (step now event session).1

/-- A sync is due: an attach has installed the directories, or breakpoints were set after it. -/
def startsSync (session : Session) (event : SessionEvent) (after : Session) : Bool :=
  session.paths.isNone && after.paths.isSome ||
    session.paths.isSome && session.setsBreakpoints event

/-- How often a sync was due over a run. -/
def syncStarts : List (Nat × SessionEvent) → Session → Nat
  | [], _ => 0
  | (now, event) :: events, session =>
    (if session.startsSync event (step now event session).1 then 1 else 0) +
      syncStarts events (step now event session).1

theorem callMarks_append (session : Session) (first second : List Effect) :
    session.callMarks (first ++ second) = session.callMarks first ++ session.callMarks second :=
  List.filterMap_append

/-- Calls that keep the breakpoints leave no mark. -/
theorem callMarks_eq_nil {session : Session} {effects : List Effect}
    (hkeeps : ∀ id made, Effect.call id made ∈ effects → made.KeepsBreakpoints) :
    session.callMarks effects = [] := by
  rw [callMarks, List.filterMap_eq_nil_iff]
  intro effect heffect
  cases effect with
  | call id made =>
      have hmade := hkeeps id made heffect
      cases made with
      | clearBreakpoints => exact absurd trivial hmade
      | setBreakpoint file line => exact absurd trivial hmade
      | info suffix => rfl
      | runState suffix => rfl
      | setResumeMode suffix mode => rfl
      | setPendingEval expression => rfl
      | evalResult => rfl
      | serverCommand command => rfl
  | send message => rfl
  | log record => rfl
  | ready id => rfl
  | sleepUntil id deadline => rfl
  | forget id => rfl

theorem callMarks_of_noCall {session : Session} {effects : List Effect}
    (hwithin : ∀ effect ∈ effects, effect.Within noCall) : session.callMarks effects = [] :=
  callMarks_eq_nil fun id made hmem => False.elim (hwithin (.call id made) hmem)

theorem callMarks_of_callsFor {session : Session} {id : Nat} {allowed : BackendCall → Prop}
    {effects : List Effect}
    (hwithin : ∀ effect ∈ effects, effect.Within (callsFor id allowed))
    (hkeeps : ∀ made, allowed made → made.KeepsBreakpoints) : session.callMarks effects = [] :=
  callMarks_eq_nil fun other made hmem => hkeeps made (hwithin (.call other made) hmem).2

theorem answerMarks_eq_nil {session : Session} {event : SessionEvent} {id : Nat}
    (hfor : event.IsFor id) (hid : session.callingStage? id = none) :
    session.answerMarks event = [] := by
  rcases hfor with rfl | ⟨outcome, rfl⟩
  · rfl
  · simp only [answerMarks, hid]

theorem nodup_pendingSyncs {session : Session} (htable : TableOk session) :
    session.pendingSyncs.Nodup :=
  htable.nodup_idsOf Activity.isPendingSync

theorem mem_pendingSyncs_iff {session : Session} (htable : TableOk session) {id : Nat} :
    id ∈ session.pendingSyncs ↔ session.isPendingSync id = true := by
  rw [pendingSyncs, htable.mem_idsOf_iff, isPendingSync, Option.any_eq_true]
  constructor
  · rintro ⟨activity, hactivity, hpending⟩
    cases activity with
    | sync stage => exact ⟨stage, syncStage?_eq_some_iff.mpr hactivity, hpending⟩
    | attach thread stage => cases hpending
    | poll stage => cases hpending
    | resume request thread suffix mode stage => cases hpending
    | evaluate request expression stage => cases hpending
    | restart request resource stage => cases hpending
  · rintro ⟨stage, hstage, hpending⟩
    exact ⟨.sync stage, syncStage?_eq_some_iff.mp hstage, hpending⟩

theorem callingStage?_congr {session other : Session} {id : Nat}
    (hstage : other.syncStage? id = session.syncStage? id) :
    other.callingStage? id = session.callingStage? id := by
  rw [callingStage?, callingStage?, hstage]

theorem isPendingSync_congr {session other : Session} {id : Nat}
    (hstage : other.syncStage? id = session.syncStage? id) :
    other.isPendingSync id = session.isPendingSync id := by
  rw [isPendingSync, isPendingSync, hstage]

theorem callingStage?_eq_some_iff {session : Session} {id : Nat} {stage : SyncStage} :
    session.callingStage? id = some stage ↔
      session.syncStage? id = some stage ∧ stage.isCalling = true := by
  rw [callingStage?, Option.filter_eq_some_iff]

/-- At most one sync waits for a call. -/
theorem callingStage?_unique {session : Session} (hsyncs : SyncsOk session) {id other : Nat}
    {stage next : SyncStage} (hstage : session.callingStage? id = some stage)
    (hnext : session.callingStage? other = some next) : id = other := by
  obtain ⟨hfound, hcalls⟩ := callingStage?_eq_some_iff.mp hstage
  obtain ⟨hfoundNext, hcallsNext⟩ := callingStage?_eq_some_iff.mp hnext
  have hturn := hsyncs.working id stage hfound (stage.isWorking_of_isCalling hcalls)
  rw [hsyncs.working other next hfoundNext (next.isWorking_of_isCalling hcallsNext)] at hturn
  exact (Option.some.inj hturn).symm

/-- Syncs are there only once the directories are. -/
def SyncsInstalled (session : Session) : Prop :=
  ∀ id, (session.syncStage? id).isSome = true → session.paths.isSome = true

/-! ## Steps of the syncs -/

/-- What an event does to the syncs, and what can be seen of it. -/
inductive SyncStep (session : Session) (event : SessionEvent) (after : Session) (starts : Bool) :
    List SyncMark → Prop
  | quiet {fresh : List Nat} (hcount : fresh.length = if starts then 1 else 0)
      (hnew : ∀ id ∈ fresh, session.nextActivity ≤ id)
      (hevent : ∀ id outcome, event = .outcome id outcome → session.callingStage? id = none)
      (hcalling : ∀ id, after.callingStage? id = session.callingStage? id)
      (hpending : ∀ id,
        after.isPendingSync id = (session.isPendingSync id || decide (id ∈ fresh))) :
      SyncStep session event after starts []
  | began {id : Nat} {plan : List (String × Int)} (hstarts : starts = false)
      (hevent : event = .wake id)
      (hknown : session.backendBreakpoints = some plan)
      (hwaiting : session.isPendingSync id = true)
      (hidle : ∀ other, session.callingStage? other = none)
      (hcalling : ∀ other, after.callingStage? other =
        if other = id then some (.clearing { rest := plan, total := plan.length }) else none)
      (hpending : ∀ other,
        after.isPendingSync other = (session.isPendingSync other && other != id)) :
      SyncStep session event after starts [.clear id (some plan)]
  | called {id : Nat} {stage : SyncStage} {outcome : Outcome} {file : String} {line : Int}
      {rest : List (String × Int)} {total : Nat} (hstarts : starts = false)
      (hevent : event = .outcome id outcome)
      (hstage : session.callingStage? id = some stage)
      (hleft : stage.left? outcome = some { rest := (file, line) :: rest, total })
      (hcalling : ∀ other, after.callingStage? other =
        if other = id then some (.setting file line { rest, total }) else none)
      (hpending : ∀ other, after.isPendingSync other = session.isPendingSync other) :
      SyncStep session event after starts
        [.answered id (stage.accepts outcome), .set id file line]
  | ended {id : Nat} {stage : SyncStage} {outcome : Outcome} (hstarts : starts = false)
      (hevent : event = .outcome id outcome)
      (hstage : session.callingStage? id = some stage)
      (hleft : ∀ left, stage.left? outcome = some left → left.rest = [])
      (hcalling : ∀ other, after.callingStage? other = none)
      (hpending : ∀ other, after.isPendingSync other = session.isPendingSync other) :
      SyncStep session event after starts [.answered id (stage.accepts outcome)]

section SyncStep

variable {session : Session} {event : SessionEvent} {out : Session × List Effect}

theorem SyncStep.still {after : Session}
    (hevent : ∀ id outcome, event = .outcome id outcome → session.callingStage? id = none)
    (hcalling : ∀ id, after.callingStage? id = session.callingStage? id)
    (hpending : ∀ id, after.isPendingSync id = session.isPendingSync id) :
    SyncStep session event after false [] := by
  have hnone : ([] : List Nat).length = if false then 1 else 0 := rfl
  exact .quiet hnone (by simp) hevent hcalling (by simpa using hpending)

/-- Only the sync at work can wait for a call. -/
theorem callingStage?_eq_none_of_ne {id other : Nat} (hmay : MayWork session id)
    (hsyncs : SyncsOk session) (hother : other ≠ id) : session.callingStage? other = none := by
  cases hcalling : session.callingStage? other with
  | none => rfl
  | some stage =>
      obtain ⟨hstage, hcalls⟩ := callingStage?_eq_some_iff.mp hcalling
      exact absurd (hmay.eq_of_working hsyncs hstage (stage.isWorking_of_isCalling hcalls)) hother

section Work

variable {after : Session} {id : Nat} {stage : SyncStage}

theorem callingStage?_of_work
    (hstages : ∀ other, after.syncStage? other =
      if other = id then some stage else session.syncStage? other)
    (hcalls : stage.isCalling = true) (hidle : ∀ other ≠ id, session.callingStage? other = none)
    (other : Nat) : after.callingStage? other = if other = id then some stage else none := by
  by_cases hother : other = id
  · rw [callingStage?, hstages, if_pos hother, if_pos hother, Option.filter_some, if_pos hcalls]
  · rw [callingStage?_congr ((hstages other).trans (if_neg hother)), if_neg hother]
    exact hidle other hother

theorem isPendingSync_of_work
    (hstages : ∀ other, after.syncStage? other =
      if other = id then some stage else session.syncStage? other)
    (hcalls : stage.isCalling = true) (other : Nat) :
    after.isPendingSync other = (session.isPendingSync other && other != id) := by
  by_cases hother : other = id
  · rw [isPendingSync, hstages, if_pos hother]
    simp [hcalls, hother]
  · rw [isPendingSync_congr ((hstages other).trans (if_neg hother))]
    simp [hother]

theorem isPendingSync_eq_false_of_calling (hstage : session.callingStage? id = some stage) :
    session.isPendingSync id = false := by
  obtain ⟨hfound, hcalls⟩ := callingStage?_eq_some_iff.mp hstage
  simp [isPendingSync, hfound, hcalls]

theorem syncStage?_await {base : Session} (hknown : (session.syncStage? id).isSome = true)
    (hbase : ∀ other, base.syncStage? other = session.syncStage? other) (stage : SyncStage)
    (made : BackendCall) (other : Nat) :
    (await id (.sync stage) made base).1.syncStage? other =
      if other = id then some stage else session.syncStage? other := by
  have hput : (put id (.sync stage) base).1.syncStage? other =
      if other = id then some stage else base.syncStage? other :=
    syncStage?_put (by rw [hbase]; exact hknown) other
  rw [hbase] at hput
  exact hput

end Work

/-! ### The moves, seen from outside -/

section Moves

variable {id : Nat} {stage : SyncStage} {outcome : Outcome} {notice : Turn}

/-- The answer to a call, and what the sync does about it. -/
theorem syncMarks_answered (hown : session.callingStage? id = some stage)
    (hnotice : Silent session (notice session)) (outcome : Outcome) (turn : Turn) :
    session.syncMarks (.outcome id outcome) (notice.andThen turn session) =
      .answered id (stage.accepts outcome) ::
        session.callMarks (turn (notice session).1).2 := by
  rw [syncMarks, Turn.andThen_snd, callMarks_append, callMarks_of_noCall hnotice.effects]
  simp only [answerMarks, hown]
  rfl

theorem callMarks_endSync (session base : Session) (id : Nat) :
    session.callMarks (endSync id base).2 = [] := by
  cases hqueue : base.syncQueue with
  | nil =>
      rw [endSync_last hqueue]
      rfl
  | cons next others =>
      rw [endSync_admits hqueue]
      rfl

theorem callingStage?_eq_none_of_waiting (hstage : session.syncStage? id = some stage)
    (hwaits : stage.isCalling = false) : session.callingStage? id = none := by
  rw [callingStage?, hstage, Option.filter_some, if_neg (by simp [hwaits])]

theorem syncStep_ignored (hfor : event.IsFor id) (hstage : session.syncStage? id = some stage)
    (hevent : ∀ outcome, event = .outcome id outcome → stage.isCalling = false) :
    SyncStep session event session false (session.syncMarks event (session, [])) := by
  have hquiet : ∀ other outcome, event = .outcome other outcome →
      session.callingStage? other = none := by
    rintro other outcome rfl
    have hsame : other = id := by
      rcases hfor with hwake | ⟨_, houtcome⟩
      · cases hwake
      · exact (SessionEvent.outcome.inj houtcome).1
    rw [hsame]
    exact callingStage?_eq_none_of_waiting hstage (hevent outcome (by rw [hsame]))
  have hmarks : session.syncMarks event (session, []) = [] := by
    rcases hfor with rfl | ⟨outcome, rfl⟩
    · rfl
    · rw [syncMarks, answerMarks_eq_nil (.inr ⟨outcome, rfl⟩) (hquiet id outcome rfl)]
      rfl
  rw [hmarks]
  exact .still hquiet (fun _ => rfl) fun _ => rfl

/-- A sync that waits for its turn has made no call, and makes none. -/
theorem syncStep_queued (hstage : session.syncStage? id = some .starting) :
    SyncStep session (.wake id)
      (put id (.sync .queued) { session with syncQueue := session.syncQueue ++ [id] }).1 false
      [] := by
  have hstages := @syncStage?_put { session with syncQueue := session.syncQueue ++ [id] } id
    .queued (Option.isSome_of_eq_some hstage)
  refine .still (by simp) (fun other => ?_) fun other => ?_
  · by_cases hother : other = id
    · rw [callingStage?, callingStage?, hstages, if_pos hother, hother, hstage]
      rfl
    · exact callingStage?_congr ((hstages other).trans (if_neg hother))
  · by_cases hother : other = id
    · rw [isPendingSync, isPendingSync, hstages, if_pos hother, hother, hstage]
      rfl
    · exact isPendingSync_congr ((hstages other).trans (if_neg hother))

/-- The sync whose turn it is makes its first call while no other waits for one. -/
theorem syncStep_began {plan : List (String × Int)} (hsyncs : SyncsOk session)
    (hstage : session.syncStage? id = some stage)
    (hfirst : stage = .starting ∧ session.syncTurn = none ∨
      stage = .admitted ∧ session.syncTurn = some id)
    (hplan : session.backendBreakpoints = some plan) :
    SyncStep session (.wake id)
      (await id (.sync (.clearing { rest := plan, total := plan.length })) .clearBreakpoints
        { session with syncTurn := some id }).1 false [.clear id (some plan)] := by
  have hmay := hsyncs.mayWork_first hstage hfirst
  have hwaits : stage.isCalling = false := by
    rcases hfirst with ⟨rfl, -⟩ | ⟨rfl, -⟩
    · rfl
    · rfl
  have hidle : ∀ other, session.callingStage? other = none := by
    intro other
    by_cases hother : other = id
    · rw [hother]
      exact callingStage?_eq_none_of_waiting hstage hwaits
    · exact callingStage?_eq_none_of_ne hmay hsyncs hother
  have hstages := @syncStage?_await session id { session with syncTurn := some id }
    (Option.isSome_of_eq_some hstage) (fun _ => rfl)
    (.clearing { rest := plan, total := plan.length }) .clearBreakpoints
  refine .began rfl rfl hplan ?_ hidle ?_ ?_
  · rw [isPendingSync, hstage]
    simp [hwaits]
  · exact callingStage?_of_work hstages rfl fun other _ => hidle other
  · exact isPendingSync_of_work hstages rfl

theorem syncStep_called {file : String} {line : Int} {rest : List (String × Int)} {total : Nat}
    (hsyncs : SyncsOk session) (hstage : session.syncStage? id = some stage)
    (hcalling : stage.isCalling = true)
    (hleft : stage.left? outcome = some { rest := (file, line) :: rest, total })
    (hnotice : Silent session (notice session)) :
    SyncStep session (.outcome id outcome)
      (notice.andThen (await id (.sync (.setting file line { rest, total }))
        (.setBreakpoint file line)) session).1 false
      [.answered id (stage.accepts outcome), .set id file line] := by
  have hmay := hsyncs.mayWork hstage (stage.isWorking_of_isCalling hcalling)
  have hown : session.callingStage? id = some stage :=
    callingStage?_eq_some_iff.mpr ⟨hstage, hcalling⟩
  have hstages := syncStage?_await (Option.isSome_of_eq_some hstage)
    (syncStage?_of_silent hnotice) (.setting file line { rest, total }) (.setBreakpoint file line)
  refine .called rfl rfl hown hleft ?_ fun other => ?_
  · exact callingStage?_of_work hstages rfl fun other hother =>
      callingStage?_eq_none_of_ne hmay hsyncs hother
  · apply (isPendingSync_of_work hstages rfl other).trans
    by_cases hother : other = id
    · simp [hother, isPendingSync_eq_false_of_calling hown]
    · simp [hother]

/-- A sync that ends lets in the first of the queue, which has made no call yet. -/
theorem syncStep_ended (hsyncs : SyncsOk session) (hstage : session.syncStage? id = some stage)
    (hcalling : stage.isCalling = true)
    (hleft : ∀ plan, stage.left? outcome = some plan → plan.rest = [])
    (hnotice : Silent session (notice session)) :
    SyncStep session (.outcome id outcome) (notice.andThen (endSync id) session).1 false
      [.answered id (stage.accepts outcome)] := by
  have hmay := hsyncs.mayWork hstage (stage.isWorking_of_isCalling hcalling)
  have hown : session.callingStage? id = some stage :=
    callingStage?_eq_some_iff.mpr ⟨hstage, hcalling⟩
  have hstages := syncStage?_endSync hsyncs hmay.unqueued hnotice.activities hnotice.syncQueue
  have hhead : ∀ other, session.syncQueue.head? = some other →
      session.syncStage? other = some .queued :=
    fun other hother => (hsyncs.queued other).mp (List.mem_of_mem_head? hother)
  refine .ended rfl rfl hown hleft (fun other => ?_) fun other => ?_
  · rw [callingStage?, Turn.andThen_fst, hstages]
    split
    · rfl
    · next hother =>
        split
        · rfl
        · exact callingStage?_eq_none_of_ne hmay hsyncs hother
  · rw [isPendingSync, Turn.andThen_fst, hstages]
    split
    · next hother =>
        rw [hother, isPendingSync_eq_false_of_calling hown]
        rfl
    · split
      · next hother =>
          rw [isPendingSync, hhead other hother]
          rfl
      · rfl

/-- Every move of a sync is a step of the syncs. -/
theorem SyncMove.syncStep (hmove : SyncMove id session stage event out) (hfor : event.IsFor id)
    (hsyncs : SyncsOk session) (hstage : session.syncStage? id = some stage)
    (hinstalled : session.paths.isSome = true) :
    SyncStep session event out.1 false (session.syncMarks event out) := by
  cases hmove with
  | ignored hevent => exact syncStep_ignored hfor hstage hevent
  | queued hturn => exact syncStep_queued hstage
  | @began _ plan hfirst hplan =>
      have hmarks : session.syncMarks (.wake id) (await id
          (.sync (.clearing { rest := plan, total := plan.length })) .clearBreakpoints
          { session with syncTurn := some id }) = [.clear id (some plan)] := by
        rw [← hplan]
        rfl
      rw [hmarks]
      exact syncStep_began hsyncs hstage hfirst hplan
  | skipped hfirst hplan =>
      rw [backendBreakpoints, Option.map_eq_none_iff] at hplan
      rw [hplan] at hinstalled
      cases hinstalled
  | called hcalling hleft hnotice =>
      rw [syncMarks_answered (callingStage?_eq_some_iff.mpr ⟨hstage, hcalling⟩) hnotice]
      exact syncStep_called hsyncs hstage hcalling hleft hnotice
  | ended hcalling hleft hnotice =>
      rw [syncMarks_answered (callingStage?_eq_some_iff.mpr ⟨hstage, hcalling⟩) hnotice,
        callMarks_endSync]
      exact syncStep_ended hsyncs hstage hcalling hleft hnotice

end Moves

theorem callingStage?_of_answerMarks (hanswer : session.answerMarks event = []) (id : Nat)
    (outcome : Outcome) (hevent : event = .outcome id outcome) :
    session.callingStage? id = none := by
  subst hevent
  cases hstage : session.callingStage? id with
  | none => rfl
  | some stage =>
      simp only [answerMarks, hstage] at hanswer
      cases hanswer

/-- A turn that starts new syncs and moves no other. -/
theorem syncStep_of_stages {fresh : List Nat} {starts : Bool} (htable : TableOk session)
    (hanswer : session.answerMarks event = []) (hcalls : session.callMarks out.2 = [])
    (hcount : fresh.length = if starts then 1 else 0)
    (hnew : ∀ id ∈ fresh, session.nextActivity ≤ id)
    (hstages : ∀ id, out.1.syncStage? id =
      if id ∈ fresh then some .starting else session.syncStage? id) :
    SyncStep session event out.1 starts (session.syncMarks event out) := by
  rw [syncMarks, hanswer, hcalls]
  refine .quiet hcount hnew (callingStage?_of_answerMarks hanswer) (fun id => ?_) fun id => ?_
  · by_cases hid : id ∈ fresh
    · rw [callingStage?, callingStage?, hstages, if_pos hid,
        htable.syncStage?_eq_none (hnew id hid)]
      rfl
    · exact callingStage?_congr ((hstages id).trans (if_neg hid))
  · by_cases hid : id ∈ fresh
    · rw [isPendingSync, hstages, if_pos hid]
      simp [hid, SyncStage.isCalling]
    · rw [isPendingSync_congr ((hstages id).trans (if_neg hid))]
      simp [hid]

theorem startsSync_eq_false {after : Session} (hpaths : after.paths = session.paths)
    (hsets : session.setsBreakpoints event = false) :
    session.startsSync event after = false := by
  rw [startsSync, hpaths, hsets]
  cases session.paths <;> rfl

/-- A turn without a part in the syncs. -/
theorem syncStep_of_unmoved (hanswer : session.answerMarks event = [])
    (hcalls : session.callMarks out.2 = []) (hpaths : out.1.paths = session.paths)
    (hsets : session.setsBreakpoints event = false)
    (hstages : ∀ id, out.1.syncStage? id = session.syncStage? id) :
    SyncStep session event out.1 (session.startsSync event out.1)
      (session.syncMarks event out) := by
  rw [startsSync_eq_false hpaths hsets, syncMarks, hanswer, hcalls]
  exact .still (callingStage?_of_answerMarks hanswer) (fun id => callingStage?_congr (hstages id))
    fun id => isPendingSync_congr (hstages id)

theorem answerMarks_of_role {id : Nat} {activity : Activity} (hfor : event.IsFor id)
    (hactivity : session.activity? id = some activity) (hrole : activity.role ≠ .syncing) :
    session.answerMarks event = [] := by
  apply answerMarks_eq_nil hfor
  rw [callingStage?, syncStage?_eq_none_of_role hactivity hrole]
  rfl

/-- An attach starts the first sync, unless the directories are known. -/
theorem syncStep_attached {id : Nat} {outcome : Outcome} {thread : Int} {timer : Timer}
    {suffix : String} {allowed : BackendCall → Prop} {mine : Activity → Prop}
    {paths : ResourceDirectories} {prelude rest : Session × List Effect}
    (hwf : WellFormed session)
    (hactivity : session.activity? id = some (.attach thread (.asking timer suffix)))
    (hpaths : session.paths = none ∨ session.paths = some paths)
    (hprelude : Spawns ((if session.hasPoller then [] else [.poll .starting]) ++
        (if session.paths.isSome then [] else [.sync .starting]))
      { session with paths := some paths } prelude)
    (hlocal : Local id allowed mine
      { prelude.1 with contexts := (prelude.1.contexts.startCommand thread).2 } rest)
    (hallowed : ∀ made, allowed made → made.KeepsBreakpoints)
    (hmine : ∀ stage, ¬ mine (.sync stage)) :
    SyncStep session (.outcome id outcome) rest.1
      (session.startsSync (.outcome id outcome) rest.1)
      (session.syncMarks (.outcome id outcome) (rest.1, prelude.2 ++ rest.2)) := by
  have hbase : TableOk { session with paths := some paths } := hwf.table.congr rfl rfl
  have hidle : session.syncStage? id = none :=
    syncStage?_eq_none_of_role hactivity (by simp [Activity.role])
  have hpoller : ∀ stage, Activity.sync stage ∉
      (if session.hasPoller then [] else [.poll .starting] : List Activity) := by
    intro stage
    split <;> simp
  have hanswer : session.answerMarks (.outcome id outcome) = [] :=
    answerMarks_of_role (.inr ⟨outcome, rfl⟩) hactivity (by simp [Activity.role])
  have hcalls : session.callMarks (prelude.2 ++ rest.2) = [] := by
    rw [callMarks_append, callMarks_of_noCall hprelude.effects,
      callMarks_of_callsFor hlocal.effects hallowed]
    rfl
  have hafter : rest.1.paths = some paths := by
    have hmid : rest.1.paths = prelude.1.paths := congrArg Backdrop.paths hlocal.backdrop
    exact hmid.trans (congrArg Backdrop.paths hprelude.backdrop)
  have hbelow := hwf.table.lt_of_activity? hactivity
  rcases hpaths with hnone | hsome
  · have hstarts : session.startsSync (.outcome id outcome) rest.1 = true := by
      rw [startsSync, hnone, hafter]
      rfl
    rw [hnone, Option.isSome_none, if_neg Bool.false_ne_true] at hprelude
    have hspawned := syncStage?_of_spawns_sync hprelude hbase hpoller
    have hmid := hspawned id
    rw [if_neg (by simp only; omega)] at hmid
    have hstages := syncStage?_of_local hlocal (hmid.trans hidle) hmine
    rw [hstarts]
    refine @syncStep_of_stages session _ (rest.1, prelude.2 ++ rest.2) [session.nextActivity +
      (if session.hasPoller then [] else [.poll .starting] : List Activity).length] true hwf.table
      hanswer hcalls rfl ?_ fun other => ?_
    · intro fresh hfresh
      rw [List.mem_singleton.mp hfresh]
      exact Nat.le_add_right _ _
    · simp only [List.mem_singleton]
      exact (hstages other).trans (hspawned other)
  · rw [hsome, Option.isSome_some, if_pos rfl, List.append_nil] at hprelude
    have hspawned := syncStage?_of_spawns hprelude hbase hpoller
    have hstages := syncStage?_of_local hlocal ((hspawned id).trans hidle) hmine
    exact @syncStep_of_unmoved session _ (rest.1, prelude.2 ++ rest.2) hanswer hcalls
      (hafter.trans hsome.symm) rfl fun other => (hstages other).trans (hspawned other)

/-- Breakpoints that are set once the directories are known make a sync due. -/
theorem syncStep_breakpointsSet {request : Request} {path : String} {lines : List Int}
    (hwf : WellFormed session)
    (haccepted : session.setsBreakpoints (.request request) = true)
    (hspawns : Spawns (if session.paths.isSome then [.sync .starting] else [])
      { session with breakpoints := (session.breakpoints.replace path lines).2 } out) :
    SyncStep session (.request request) out.1 (session.startsSync (.request request) out.1)
      (session.syncMarks (.request request) out) := by
  have hbase : TableOk { session with
    breakpoints := (session.breakpoints.replace path lines).2 } := hwf.table.congr rfl rfl
  have hcalls : session.callMarks out.2 = [] := callMarks_of_noCall hspawns.effects
  have hpaths : out.1.paths = session.paths := congrArg Backdrop.paths hspawns.backdrop
  cases hinstalled : session.paths.isSome with
  | true =>
      have hstarts : session.startsSync (.request request) out.1 = true := by
        rw [startsSync, hinstalled, haccepted, Bool.and_self, Bool.or_true]
      rw [hinstalled] at hspawns
      have hone : Spawns ([] ++ [.sync .starting]) { session with
        breakpoints := (session.breakpoints.replace path lines).2 } out := hspawns
      have hstages := syncStage?_of_spawns_sync hone hbase (by simp)
      rw [hstarts]
      refine @syncStep_of_stages session _ out [session.nextActivity] true hwf.table rfl hcalls rfl
        (by simp) fun other => ?_
      have hother := hstages other
      simp only [List.mem_singleton]
      exact hother
  | false =>
      have hstarts : session.startsSync (.request request) out.1 = false := by
        rw [startsSync, hinstalled, hpaths, hinstalled, Bool.and_false, Bool.false_and]
        rfl
      rw [hinstalled] at hspawns
      have hstages := syncStage?_of_spawns hspawns hbase (by simp)
      rw [hstarts, syncMarks, hcalls]
      exact .still (by simp) (fun other => callingStage?_congr (hstages other))
        fun other => isPendingSync_congr (hstages other)

/-- Every reaction is one step of the syncs. -/
theorem Reaction.syncStep (hreaction : Reaction session event out) (hwf : WellFormed session)
    (hinstalled : session.SyncsInstalled) :
    SyncStep session event out.1 (session.startsSync event out.1)
      (session.syncMarks event out) := by
  cases hreaction with
  | answered hplain hsilent =>
      exact syncStep_of_unmoved rfl (callMarks_of_noCall hsilent.effects)
        (congrArg Backdrop.paths hsilent.backdrop) hplain.sets (syncStage?_of_silent hsilent)
  | recounted hcommand hsilent =>
      have hstages := syncStage?_of_silent hsilent
      exact syncStep_of_unmoved rfl (callMarks_of_noCall hsilent.effects)
        (congrArg Backdrop.paths hsilent.backdrop) (by simp [setsBreakpoints, hcommand]) hstages
  | started hplain hfresh hspawns =>
      refine syncStep_of_unmoved rfl (callMarks_of_noCall hspawns.effects)
        (congrArg Backdrop.paths hspawns.backdrop) hplain.sets
        (syncStage?_of_spawns hspawns hwf.table fun stage hstage => ?_)
      rcases hfresh _ hstage with hserving | ⟨thread, -, hattaching⟩
      · cases hserving
      · cases hattaching
  | breakpointsSet hcommand haccepted hspawns =>
      exact syncStep_breakpointsSet hwf haccepted hspawns
  | commandStarted hsets hbegun hget hspawns =>
      have hstages := syncStage?_of_spawns hspawns (hwf.table.congr rfl rfl) (by simp)
      exact syncStep_of_unmoved rfl (callMarks_of_noCall hspawns.effects)
        (congrArg Backdrop.paths hspawns.backdrop) hsets hstages
  | @shutDown event rest hevent hplain hsilent =>
      have hflag : TableOk { session with isShutDown := true } := hwf.table.congr rfl rfl
      have hcancelled := syncStage?_of_cancel hflag (fun _ => rfl : ∀ stage,
        Activity.endsAtShutdown (.sync stage) = false)
      have hstages : ∀ id, rest.1.syncStage? id = session.syncStage? id :=
        fun id => (syncStage?_of_silent hsilent id).trans (hcancelled id)
      have hanswer : session.answerMarks event = [] := by
        cases event with
        | outcome id outcome => exact absurd (.inr ⟨outcome, rfl⟩) (hevent id)
        | request request => rfl
        | shutdown => rfl
        | release => rfl
        | wake id => rfl
      refine @syncStep_of_unmoved session event (rest.1, (shutdown session).2 ++ rest.2) hanswer
        ?_ (congrArg Backdrop.paths hsilent.backdrop) hplain.sets hstages
      rw [callMarks_append, callMarks_of_noCall hsilent.effects]
      exact congrArg (· ++ []) (callMarks_of_noCall
        (within_cancel Activity.endsAtShutdown { session with isShutDown := true }))
  | released => exact syncStep_of_unmoved rfl rfl rfl rfl fun _ => rfl
  | @absent id event hfor hnone =>
      have hidle := @syncStage?_eq_none_of_ne session id (by simp [hnone])
      refine syncStep_of_unmoved (answerMarks_eq_nil hfor ?_) rfl rfl
        (setsBreakpoints_of_isFor hfor) fun _ => rfl
      rw [callingStage?, hidle]
      rfl
  | @moved id event activity out hfor hactivity hpolling hsyncing hplain hlocal hpresent =>
      exact syncStep_of_unmoved (answerMarks_of_role hfor hactivity hsyncing)
        (callMarks_of_callsFor hlocal.effects fun _ hkeeps => hkeeps)
        (congrArg Backdrop.paths hlocal.backdrop) hplain.sets
        (syncStage?_of_local hlocal (syncStage?_eq_none_of_role hactivity hsyncing)
          fun _ hrole => hsyncing hrole.symm)
  | attached hactivity hbegun hpaths hprelude hget hlocal hpresent =>
      exact syncStep_attached hwf hactivity hpaths hprelude hlocal
        (by rintro _ rfl; exact not_false) (by simp [Activity.role])
  | @commandEnded id event thread out hended hlocal =>
      obtain ⟨outcome, activity, rfl, hactivity, hrole⟩ := endedCommand?_eq_some hended
      have hsyncing : activity.role ≠ .syncing := by simp [hrole]
      have hidle := syncStage?_eq_none_of_role hactivity hsyncing
      have hstages := syncStage?_of_local hlocal hidle fun _ hnone => hnone
      exact syncStep_of_unmoved (answerMarks_of_role (.inr ⟨outcome, rfl⟩) hactivity hsyncing)
        (callMarks_of_callsFor hlocal.effects fun _ hnone => hnone.elim)
        (congrArg Backdrop.paths hlocal.backdrop) rfl hstages
  | @ticked id event stage out hfor hactivity hlocal =>
      have hsyncing : (Activity.poll stage).role ≠ .syncing := by simp [Activity.role]
      exact syncStep_of_unmoved (answerMarks_of_role hfor hactivity hsyncing)
        (callMarks_of_callsFor hlocal.effects fun _ hkeeps => hkeeps)
        (congrArg Backdrop.paths hlocal.backdrop) (setsBreakpoints_of_isFor hfor)
        (syncStage?_of_local hlocal (syncStage?_eq_none_of_role hactivity hsyncing)
          (by simp [Activity.role]))
  | @paused id outcome timer target others state report rest hactivity hreply haccepted hreport
      hlocal =>
      have hsyncing : (Activity.poll (.asking timer target others)).role ≠ .syncing := by
        simp [Activity.role]
      have hmid : ∀ other, report.1.syncStage? other = session.syncStage? other :=
        fun other => syncStage?_congr (activity?_congr hreport.activities other)
      have hstages := syncStage?_of_local hlocal
        ((hmid id).trans (syncStage?_eq_none_of_role hactivity hsyncing)) (by simp [Activity.role])
      refine @syncStep_of_unmoved session (.outcome id outcome) (rest.1, report.2 ++ rest.2)
        (answerMarks_of_role (.inr ⟨outcome, rfl⟩) hactivity hsyncing) ?_
        ((congrArg Backdrop.paths hlocal.backdrop).trans (congrArg Backdrop.paths hreport.backdrop))
        rfl fun other => (hstages other).trans (hmid other)
      rw [callMarks_append, callMarks_of_callsFor hlocal.effects fun _ hkeeps => hkeeps,
        callMarks_eq_nil fun other made hmem => absurd hmem (hreport.calls other made)]
      rfl
  | synced hfor hstage hmove =>
      have hpaths := hinstalled _ (Option.isSome_of_eq_some hstage)
      have hframe := hmove.frame hwf.table hwf.syncs hstage
      rw [startsSync_eq_false (congrArg Backdrop.paths hframe.backdrop)
        (setsBreakpoints_of_isFor hfor)]
      exact hmove.syncStep hfor hwf.syncs hstage hpaths

end SyncStep

end Session

end DebugBridge
