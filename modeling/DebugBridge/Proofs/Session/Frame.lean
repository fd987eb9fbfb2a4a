import DebugBridge.Proofs.Protocol.Stops
import DebugBridge.Proofs.Session.Table

/-!
# Frames of turns

What a turn leaves alone.  A silent turn only sends and logs; a local turn also moves its own
activity from stage to stage; a spawning turn adds activities of known kinds.  None of them reports
a stop, and a local turn calls the backend for its own activity only.
-/

namespace DebugBridge

/-- The effect reports no stop, and a call is one that is allowed. -/
def Effect.Within (allowed : Nat → BackendCall → Prop) : Effect → Prop
  | .send message => stoppedThread? message = none
  | .call activity made => allowed activity made
  | _ => True

/-- No call at all. -/
def noCall : Nat → BackendCall → Prop := fun _ _ => False

/-- Calls for one activity. -/
def callsFor (id : Nat) (allowed : BackendCall → Prop) : Nat → BackendCall → Prop :=
  fun activity made => activity = id ∧ allowed made

theorem Effect.Within.mono {allowed wider : Nat → BackendCall → Prop} {effect : Effect}
    (hwithin : effect.Within allowed) (hwider : ∀ id made, allowed id made → wider id made) :
    effect.Within wider := by
  cases effect with
  | send message => exact hwithin
  | call activity made => exact hwider activity made hwithin
  | log record => trivial
  | ready activity => trivial
  | sleepUntil activity deadline => trivial
  | forget activity => trivial

theorem Effect.Within.of_noCall {effect : Effect} (hwithin : effect.Within noCall)
    (allowed : Nat → BackendCall → Prop) : effect.Within allowed :=
  hwithin.mono fun _ _ hcall => hcall.elim

theorem stopsOf_eq_zero {allowed : Nat → BackendCall → Prop} {effects : List Effect}
    (hwithin : ∀ effect ∈ effects, effect.Within allowed) (thread : Int) :
    stopsOf thread effects = 0 := by
  rw [stopsOf, List.countP_eq_zero]
  intro effect heffect
  cases effect with
  | send message =>
      have hnone : stoppedThread? message = none := hwithin _ heffect
      simp [hnone]
  | log record => simp
  | call activity made => simp
  | ready activity => simp
  | sleepUntil activity deadline => simp
  | forget activity => simp

/-- The calls for one activity, in order. -/
def callsOf (id : Nat) (effects : List Effect) : List BackendCall :=
  effects.filterMap fun
    | .call activity made => if activity = id then some made else none
    | _ => none

@[simp]
theorem callsOf_append (id : Nat) (first second : List Effect) :
    callsOf id (first ++ second) = callsOf id first ++ callsOf id second :=
  List.filterMap_append

theorem callsOf_eq_nil {id : Nat} {effects : List Effect}
    (hnone : ∀ made, Effect.call id made ∉ effects) : callsOf id effects = [] := by
  rw [callsOf, List.filterMap_eq_nil_iff]
  intro effect heffect
  cases effect with
  | call activity made =>
      have hother : activity ≠ id := by
        rintro rfl
        exact hnone made heffect
      simp [hother]
  | send message => rfl
  | log record => rfl
  | ready activity => rfl
  | sleepUntil activity deadline => rfl
  | forget activity => rfl

/-- Where no call for an activity is allowed there is none. -/
theorem callsOf_eq_nil_of_within {allowed : Nat → BackendCall → Prop} {id : Nat}
    {effects : List Effect} (hwithin : ∀ effect ∈ effects, effect.Within allowed)
    (hid : ∀ made, ¬ allowed id made) : callsOf id effects = [] :=
  callsOf_eq_nil fun made hmem => hid made (hwithin _ hmem)

namespace Session

/-- Everything but the syncs' own books that the activities of a session act on. -/
structure Backdrop where
  contexts : List ExecutionContext
  paths : Option ResourceDirectories
  breakpoints : SourceBreakpoints
  linesStartAt1 : Bool
  isShutDown : Bool
  held : Bool

def backdrop (session : Session) : Backdrop where
  contexts := session.contexts.contexts
  paths := session.paths
  breakpoints := session.breakpoints
  linesStartAt1 := session.linesStartAt1
  isShutDown := session.isShutDown
  held := session.held

/-- Whose turn it is to sync, and who waits for it. -/
def syncTurns (session : Session) : Option Nat × List Nat := (session.syncTurn, session.syncQueue)

theorem activity?_congr {session other : Session}
    (hactivities : other.activities = session.activities) (id : Nat) :
    other.activity? id = session.activity? id := by
  rw [activity?, activity?, hactivities]

theorem TableOk.congr {session other : Session} (htable : TableOk session)
    (hactivities : other.activities = session.activities)
    (hnext : other.nextActivity = session.nextActivity) : TableOk other where
  increasing := by rw [hactivities]; exact htable.increasing
  below := by rw [hactivities, hnext]; exact htable.below

/-! ## Silent turns -/

/-- The turn only sends, logs and keeps books that no activity reads. -/
structure Silent (session : Session) (out : Session × List Effect) : Prop where
  backdrop : out.1.backdrop = session.backdrop
  syncTurns : out.1.syncTurns = session.syncTurns
  activities : out.1.activities = session.activities
  nextActivity : out.1.nextActivity = session.nextActivity
  effects : ∀ effect ∈ out.2, effect.Within noCall

namespace Silent

variable {session : Session} {out : Session × List Effect}

theorem refl (session : Session) : Silent session (session, []) :=
  ⟨rfl, rfl, rfl, rfl, by simp⟩

theorem andThen {first second : Turn} (hfirst : Silent session (first session))
    (hsecond : Silent (first session).1 (second (first session).1)) :
    Silent session (first.andThen second session) where
  backdrop := hsecond.backdrop.trans hfirst.backdrop
  syncTurns := hsecond.syncTurns.trans hfirst.syncTurns
  activities := hsecond.activities.trans hfirst.activities
  nextActivity := hsecond.nextActivity.trans hfirst.nextActivity
  effects := List.forall_mem_append.mpr ⟨hfirst.effects, hsecond.effects⟩

/-- A silent change may come before. -/
theorem rebase {base : Session} (hchange : Silent session (base, [])) (hsilent : Silent base out) :
    Silent session out where
  backdrop := hsilent.backdrop.trans hchange.backdrop
  syncTurns := hsilent.syncTurns.trans hchange.syncTurns
  activities := hsilent.activities.trans hchange.activities
  nextActivity := hsilent.nextActivity.trans hchange.nextActivity
  effects := hsilent.effects

theorem table (hsilent : Silent session out) (htable : TableOk session) : TableOk out.1 :=
  htable.congr hsilent.activities hsilent.nextActivity

theorem syncTurn (hsilent : Silent session out) : out.1.syncTurn = session.syncTurn :=
  congrArg Prod.fst hsilent.syncTurns

theorem syncQueue (hsilent : Silent session out) : out.1.syncQueue = session.syncQueue :=
  congrArg Prod.snd hsilent.syncTurns

theorem activity? (hsilent : Silent session out) (id : Nat) :
    out.1.activity? id = session.activity? id :=
  activity?_congr hsilent.activities id

end Silent

theorem silent_log (level : LogLevel) (message : String) (fields : List (String × LogValue))
    (session : Session) : Silent session (log level message fields session) :=
  ⟨rfl, rfl, rfl, rfl, by simp [log, Effect.Within]⟩

/-- A message that reports no stop leaves silently. -/
theorem silent_send {message : Message}
    (hmessage : ∀ seq, stoppedThread? (message.toJson seq) = none) (session : Session) :
    Silent session (send message session) := by
  refine ⟨rfl, rfl, rfl, rfl, ?_⟩
  intro effect heffect
  simp only [send, Outbox.number, List.mem_append, List.mem_map, List.mem_singleton] at heffect
  rcases heffect with ⟨record, -, rfl⟩ | rfl
  · trivial
  · exact hmessage session.outbox.nextSeq

theorem silent_respond (request : Request) (body : Option Json) (session : Session) :
    Silent session (respond request body session) :=
  silent_send (fun seq => Message.stoppedThread?_response seq _) session

theorem silent_respondFailure (request : Request) (message : String) (session : Session) :
    Silent session (respondFailure request message session) :=
  silent_send (fun seq => Message.stoppedThread?_response seq _) session

theorem silent_emit {name : String} (hname : name ≠ "stopped") (body : Option Json)
    (session : Session) : Silent session (emit name body session) :=
  silent_send (fun seq => Message.stoppedThread?_event seq hname) session

theorem silent_console (text : String) (session : Session) :
    Silent session (send (.console text) session) :=
  silent_send (fun seq => Message.stoppedThread?_event seq (by simp)) session

/-- Ending activities only makes their numbers known. -/
theorem within_cancel (isMeant : Activity → Bool) (session : Session) :
    ∀ effect ∈ (cancel isMeant session).2, effect.Within noCall := by
  intro effect heffect
  obtain ⟨entry, -, rfl⟩ := List.mem_map.mp heffect
  trivial

/-! ## Local turns -/

/-- The turn moves one activity, at most to stages of a kind, and calls only for it. -/
structure Local (id : Nat) (allowed : BackendCall → Prop) (mine : Activity → Prop)
    (session : Session) (out : Session × List Effect) : Prop where
  backdrop : out.1.backdrop = session.backdrop
  syncTurns : out.1.syncTurns = session.syncTurns
  table : TableOk out.1
  nextActivity : out.1.nextActivity = session.nextActivity
  others : ∀ other ≠ id, out.1.activity? other = session.activity? other
  own : ∀ activity, out.1.activity? id = some activity → mine activity
  effects : ∀ effect ∈ out.2, effect.Within (callsFor id allowed)

section Local

variable {id : Nat} {allowed : BackendCall → Prop} {mine : Activity → Prop} {session : Session}

theorem Silent.andThen_local {first second : Turn} (hfirst : Silent session (first session))
    (hsecond : Local id allowed mine (first session).1 (second (first session).1)) :
    Local id allowed mine session (first.andThen second session) where
  backdrop := hsecond.backdrop.trans hfirst.backdrop
  syncTurns := hsecond.syncTurns.trans hfirst.syncTurns
  table := hsecond.table
  nextActivity := hsecond.nextActivity.trans hfirst.nextActivity
  others other hother := (hsecond.others other hother).trans (hfirst.activity? other)
  own := hsecond.own
  effects := List.forall_mem_append.mpr
    ⟨fun effect heffect => (hfirst.effects effect heffect).of_noCall _, hsecond.effects⟩

theorem local_idle (htable : TableOk session)
    (hmine : ∀ activity, session.activity? id = some activity → mine activity) :
    Local id allowed mine session (session, []) where
  backdrop := rfl
  syncTurns := rfl
  table := htable
  nextActivity := rfl
  others _ _ := rfl
  own := hmine
  effects := by simp

theorem local_put (htable : TableOk session) {activity : Activity} (hmine : mine activity) :
    Local id allowed mine session (put id activity session) where
  backdrop := rfl
  syncTurns := rfl
  table := htable.put id activity
  nextActivity := rfl
  others other hother := by rw [activity?_put, if_neg hother]
  own found hfound := by
    rw [activity?_put, if_pos rfl, Option.map_eq_some_iff] at hfound
    obtain ⟨-, -, rfl⟩ := hfound
    exact hmine
  effects := by simp [put]

theorem local_await (htable : TableOk session) {activity : Activity} (hmine : mine activity)
    {call : BackendCall} (hcall : allowed call) :
    Local id allowed mine session (await id activity call session) := by
  have hput : Local id allowed mine session (put id activity session) := local_put htable hmine
  exact { hput with effects := by simp [await, put, Effect.Within, callsFor, hcall] }

theorem local_sleep (htable : TableOk session) {activity : Activity} (hmine : mine activity)
    (deadline : Nat) : Local id allowed mine session (sleep id activity deadline session) := by
  have hput : Local id allowed mine session (put id activity session) := local_put htable hmine
  exact { hput with effects := by simp [sleep, put, Effect.Within] }

theorem local_finish (htable : TableOk session) :
    Local id allowed mine session (finish id session) where
  backdrop := rfl
  syncTurns := rfl
  table := htable.finish id
  nextActivity := rfl
  others other hother := by rw [activity?_finish, if_neg hother]
  own activity hactivity := by
    rw [activity?_finish, if_pos rfl] at hactivity
    cases hactivity
  effects := by simp [finish]

end Local

/-! ## Spawning turns -/

/-- Entries for new activities, under the numbers from `next` on. -/
def numbered (next : Nat) : List Activity → List (Nat × Activity)
  | [] => []
  | activity :: rest => (next, activity) :: numbered (next + 1) rest

theorem numbered_append (next : Nat) (first second : List Activity) :
    numbered next (first ++ second) =
      numbered next first ++ numbered (next + first.length) second := by
  induction first generalizing next with
  | nil => rfl
  | cons activity first ih =>
      rw [List.cons_append, numbered, numbered, ih, List.length_cons, List.cons_append,
        Nat.add_right_comm, Nat.add_assoc]

/-- The turn adds activities and leaves the others alone. -/
structure Spawns (fresh : List Activity) (session : Session) (out : Session × List Effect) :
    Prop where
  backdrop : out.1.backdrop = session.backdrop
  syncTurns : out.1.syncTurns = session.syncTurns
  activities : out.1.activities = session.activities ++ numbered session.nextActivity fresh
  nextActivity : out.1.nextActivity = session.nextActivity + fresh.length
  effects : ∀ effect ∈ out.2, effect.Within noCall

namespace Spawns

variable {fresh more : List Activity} {session : Session} {out : Session × List Effect}

theorem of_silent (hsilent : Silent session out) : Spawns [] session out where
  backdrop := hsilent.backdrop
  syncTurns := hsilent.syncTurns
  activities := by rw [hsilent.activities, numbered, List.append_nil]
  nextActivity := hsilent.nextActivity
  effects := hsilent.effects

/-- A silent change may come before. -/
theorem rebase {base : Session} (hchange : Silent session (base, []))
    (hspawns : Spawns fresh base out) : Spawns fresh session out where
  backdrop := hspawns.backdrop.trans hchange.backdrop
  syncTurns := hspawns.syncTurns.trans hchange.syncTurns
  activities := by
    rw [hspawns.activities, hchange.activities, hchange.nextActivity]
  nextActivity := hspawns.nextActivity.trans (congrArg (· + fresh.length) hchange.nextActivity)
  effects := hspawns.effects

theorem andThen {first second : Turn} (hfirst : Spawns fresh session (first session))
    (hsecond : Spawns more (first session).1 (second (first session).1)) :
    Spawns (fresh ++ more) session (first.andThen second session) where
  backdrop := hsecond.backdrop.trans hfirst.backdrop
  syncTurns := hsecond.syncTurns.trans hfirst.syncTurns
  activities := by
    rw [Turn.andThen_fst, hsecond.activities, hfirst.activities, hfirst.nextActivity,
      numbered_append, List.append_assoc]
  nextActivity := by
    rw [Turn.andThen_fst, hsecond.nextActivity, hfirst.nextActivity, List.length_append,
      Nat.add_assoc]
  effects := List.forall_mem_append.mpr ⟨hfirst.effects, hsecond.effects⟩

/-- What comes silently before or after adds nothing. -/
theorem silent_andThen {first second : Turn} (hfirst : Silent session (first session))
    (hsecond : Spawns fresh (first session).1 (second (first session).1)) :
    Spawns fresh session (first.andThen second session) :=
  (of_silent hfirst).andThen hsecond

end Spawns

theorem spawns_spawn (activity : Activity) (session : Session) :
    Spawns [activity] session (spawn activity session) where
  backdrop := rfl
  syncTurns := rfl
  activities := rfl
  nextActivity := rfl
  effects := by simp [spawn, Effect.Within]

theorem spawns_all (fresh : List Activity) (session : Session) :
    Spawns fresh session (Turn.all (fresh.map spawn) session) := by
  induction fresh generalizing session with
  | nil => exact Spawns.of_silent (Silent.refl session)
  | cons activity fresh ih => exact (spawns_spawn activity session).andThen (ih _)

/-- A table grows by new activities as by one after the other. -/
theorem TableOk.append_numbered {session other : Session} (htable : TableOk session)
    {fresh : List Activity}
    (hactivities : other.activities = session.activities ++ numbered session.nextActivity fresh)
    (hnext : other.nextActivity = session.nextActivity + fresh.length) :
    TableOk other ∧ ∀ id, other.activity? id =
      if id < session.nextActivity then session.activity? id
      else fresh[id - session.nextActivity]? := by
  induction fresh generalizing session with
  | nil =>
      rw [numbered, List.append_nil] at hactivities
      refine ⟨htable.congr hactivities hnext, fun id => ?_⟩
      rw [activity?_congr hactivities]
      split
      · rfl
      · next hid =>
          rw [htable.activity?_eq_none (Nat.le_of_not_lt hid)]
          rfl
  | cons activity fresh ih =>
      have hgrown : (Session.spawn activity session).1.nextActivity =
          session.nextActivity + 1 := rfl
      obtain ⟨hother, hlookup⟩ := ih (htable.spawn activity)
        (by rw [hactivities, numbered, Session.spawn, List.append_assoc]; rfl)
        (by rw [hnext, hgrown, List.length_cons]; omega)
      refine ⟨hother, fun id => ?_⟩
      rw [hlookup, activity?_spawn htable, hgrown]
      rcases Nat.lt_trichotomy id session.nextActivity with hlt | rfl | hgt
      · rw [if_pos (Nat.lt_succ_of_lt hlt), if_neg (Nat.ne_of_lt hlt), if_pos hlt]
      · simp
      · rw [if_neg (by omega), if_neg (by omega),
          show id - session.nextActivity = (id - (session.nextActivity + 1)) + 1 by omega,
          List.getElem?_cons_succ]

section Spawns

variable {fresh : List Activity} {session : Session} {out : Session × List Effect}

theorem Spawns.table (hspawns : Spawns fresh session out) (htable : TableOk session) :
    TableOk out.1 :=
  (htable.append_numbered hspawns.activities hspawns.nextActivity).1

/-- The new activities stand behind the old ones. -/
theorem Spawns.activity? (hspawns : Spawns fresh session out) (htable : TableOk session)
    (id : Nat) :
    out.1.activity? id =
      if id < session.nextActivity then session.activity? id
      else fresh[id - session.nextActivity]? :=
  (htable.append_numbered hspawns.activities hspawns.nextActivity).2 id

end Spawns

end Session

end DebugBridge
