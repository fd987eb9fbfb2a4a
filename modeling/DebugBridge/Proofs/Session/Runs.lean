import DebugBridge.Proofs.Session.ActivityReactions
import DebugBridge.Proofs.Session.RequestReactions

/-!
# Runs

Every step of a session is a reaction, after which an abandoned poller goes.  Both keep a session
well formed, and so does every run.
-/

namespace DebugBridge.Session

/-- Whatever the event, what the session does is a reaction. -/
theorem reaction_react {session : Session} (hwf : WellFormed session) (now : Nat)
    (event : SessionEvent) : Reaction session event (react now event session) := by
  cases event with
  | request request => exact reaction_handle request session
  | shutdown =>
      have hplain : Plain session .shutdown := ⟨rfl, rfl, rfl⟩
      have hreaction := Reaction.shutDown (by simp [SessionEvent.IsFor]) hplain
        (Silent.refl (shutdown session).1)
      rw [List.append_nil] at hreaction
      exact hreaction
  | release => exact .released
  | wake id =>
      cases hactivity : session.activity? id with
      | none =>
          have hidle : react now (.wake id) session = (session, []) := by
            simp only [react, withActivity, hactivity]
          rw [hidle]
          exact .absent (.inl rfl) hactivity
      | some activity =>
          have hturn : react now (.wake id) session =
              wakeActivity now id session activity session := by
            simp only [react, withActivity, hactivity]
          rw [hturn]
          exact reaction_wake hwf hactivity now
  | outcome id outcome =>
      cases hactivity : session.activity? id with
      | none =>
          have hidle : react now (.outcome id outcome) session = (session, []) := by
            simp only [react, withActivity, hactivity]
          rw [hidle]
          exact .absent (.inr ⟨outcome, rfl⟩) hactivity
      | some activity =>
          have hturn : react now (.outcome id outcome) session =
              outcomeActivity now id outcome activity session := by
            simp only [react, withActivity, hactivity]
          rw [hturn]
          exact reaction_outcome hwf hactivity now outcome

/-! ## What keeps a session well formed -/

namespace WellFormed

variable {session base : Session} {out : Session × List Effect}

theorem ofConfig (config : BackendConfig) : WellFormed (.ofConfig config) where
  table := TableOk.ofConfig config
  syncs := SyncsOk.ofConfig config
  threads := Contexts.nodup_threads_ofLayout config.contexts
  known id activity thread hactivity := by simp [Session.ofConfig, activity?] at hactivity
  onePoller id other activity next hactivity := by simp [Session.ofConfig, activity?] at hactivity

/-- Only the table, the threads and the turns matter. -/
theorem congr (hwf : WellFormed session) (hactivities : base.activities = session.activities)
    (hnext : base.nextActivity = session.nextActivity)
    (hthreads : base.contexts.threads = session.contexts.threads)
    (hturns : base.syncTurns = session.syncTurns) : WellFormed base where
  table := hwf.table.congr hactivities hnext
  syncs := hwf.syncs.congr (congrArg Prod.fst hturns) (congrArg Prod.snd hturns)
    fun id => .inl (syncStage?_congr (activity?_congr hactivities id))
  threads := by rw [hthreads]; exact hwf.threads
  known id activity thread hactivity hrole := by
    rw [activity?_congr hactivities] at hactivity
    rw [hthreads]
    exact hwf.known id activity thread hactivity hrole
  onePoller id other activity next hfirst hrole hsecond hnextRole := by
    rw [activity?_congr hactivities] at hfirst hsecond
    exact hwf.onePoller id other activity next hfirst hrole hsecond hnextRole

theorem silent (hwf : WellFormed session) (hsilent : Silent session out) : WellFormed out.1 :=
  hwf.congr hsilent.activities hsilent.nextActivity
    (congrArg (fun backdrop => backdrop.contexts.map (·.thread)) hsilent.backdrop)
    hsilent.syncTurns

theorem hasPoller_of_role (hwf : WellFormed session) {id : Nat} {activity : Activity}
    (hactivity : session.activity? id = some activity) (hrole : activity.role = .polling) :
    session.hasPoller = true := by
  obtain ⟨stage, rfl⟩ := Activity.role_eq_polling_iff.mp hrole
  exact List.any_eq_true.mpr ⟨_, hwf.table.mem_activities_iff.mpr hactivity, rfl⟩

/-- New activities attach to known contexts, syncs start, and a poller comes only where none is. -/
theorem spawns {fresh : List Activity} (hwf : WellFormed session)
    (hspawns : Spawns fresh session out)
    (hknown : ∀ activity ∈ fresh, ∀ thread, activity.role = .attaching thread →
      thread ∈ session.contexts.threads)
    (hsyncs : ∀ stage, .sync stage ∈ fresh → stage = .starting)
    (hpollers : ∀ (i j : Nat) (activity next : Activity), fresh[i]? = some activity →
      activity.role = .polling → session.hasPoller = false ∧
        (fresh[j]? = some next → next.role = .polling → i = j)) :
    WellFormed out.1 := by
  have hthreads : out.1.contexts.threads = session.contexts.threads :=
    congrArg (fun backdrop => backdrop.contexts.map (·.thread)) hspawns.backdrop
  have hlookup := hspawns.activity? hwf.table
  constructor
  · exact hspawns.table hwf.table
  · refine hwf.syncs.congr (congrArg Prod.fst hspawns.syncTurns)
      (congrArg Prod.snd hspawns.syncTurns) fun id => ?_
    by_cases hid : id < session.nextActivity
    · left
      apply syncStage?_congr
      rw [hlookup, if_pos hid]
    · have hold := hwf.table.syncStage?_eq_none (Nat.le_of_not_lt hid)
      cases hstage : out.1.syncStage? id with
      | none => exact .inl hold.symm
      | some stage =>
          have hactivity := syncStage?_eq_some_iff.mp hstage
          rw [hlookup, if_neg hid] at hactivity
          rw [hsyncs stage (List.mem_of_getElem? hactivity)]
          exact .inr ⟨hold, rfl⟩
  · rw [hthreads]
    exact hwf.threads
  · intro id activity thread hactivity hrole
    rw [hthreads]
    rw [hlookup] at hactivity
    split at hactivity
    · exact hwf.known id activity thread hactivity hrole
    · exact hknown activity (List.mem_of_getElem? hactivity) thread hrole
  · intro id other activity next hfirst hrole hsecond hnextRole
    -- An old poller and a new one exclude each other.
    have hexclusive : ∀ {id other activity next}, session.activity? id = some activity →
        activity.role = .polling → fresh[other - session.nextActivity]? = some next →
        next.role = .polling → False := by
      intro id other activity next hold hrole hnew hnextRole
      have hnone := (hpollers _ 0 next next hnew hnextRole).1
      rw [hwf.hasPoller_of_role hold hrole] at hnone
      cases hnone
    rw [hlookup] at hfirst hsecond
    split at hfirst
    · split at hsecond
      · exact hwf.onePoller id other activity next hfirst hrole hsecond hnextRole
      · exact (hexclusive hfirst hrole hsecond hnextRole).elim
    · split at hsecond
      · exact (hexclusive hsecond hnextRole hfirst hrole).elim
      · have hsame := (hpollers _ _ activity next hfirst hrole).2 hsecond hnextRole
        omega

theorem spawns_unpolled {fresh : List Activity} (hwf : WellFormed session)
    (hspawns : Spawns fresh session out)
    (hknown : ∀ activity ∈ fresh, ∀ thread, activity.role = .attaching thread →
      thread ∈ session.contexts.threads)
    (hsyncs : ∀ stage, .sync stage ∈ fresh → stage = .starting)
    (hpolling : ∀ activity ∈ fresh, activity.role ≠ .polling) : WellFormed out.1 :=
  hwf.spawns hspawns hknown hsyncs fun _ _ activity _ hactivity hrole =>
    absurd hrole (hpolling activity (List.mem_of_getElem? hactivity))

/-- An activity that is no sync may move on in its role, or become a command. -/
theorem moves {id : Nat} {activity : Activity} {allowed : BackendCall → Prop}
    {mine : Activity → Prop} (hwf : WellFormed session)
    (hactivity : session.activity? id = some activity) (hsyncing : activity.role ≠ .syncing)
    (hlocal : Local id allowed mine session out)
    (hmine : ∀ next, mine next → next.role = activity.role ∨
      ∃ thread, next.role = .commanding thread) :
    WellFormed out.1 := by
  have hthreads : out.1.contexts.threads = session.contexts.threads :=
    congrArg (fun backdrop => backdrop.contexts.map (·.thread)) hlocal.backdrop
  -- What is found after the move was there before, in the same role unless it is a command.
  have hbefore : ∀ other found, out.1.activity? other = some found →
      (∃ thread, found.role = .commanding thread) ∨
        ∃ old, session.activity? other = some old ∧ old.role = found.role := by
    intro other found hfound
    by_cases hother : other = id
    · rw [hother] at hfound ⊢
      rcases hmine found (hlocal.own found hfound) with hrole | hcommand
      · exact .inr ⟨activity, hactivity, hrole.symm⟩
      · exact .inl hcommand
    · rw [hlocal.others other hother] at hfound
      exact .inr ⟨found, hfound, rfl⟩
  constructor
  · exact hlocal.table
  · refine hwf.syncs.congr (congrArg Prod.fst hlocal.syncTurns)
      (congrArg Prod.snd hlocal.syncTurns) fun other => .inl ?_
    refine syncStage?_of_local hlocal (syncStage?_eq_none_of_role hactivity hsyncing) ?_ other
    intro stage hstage
    rcases hmine _ hstage with hsame | ⟨thread, hcommand⟩
    · exact hsyncing hsame.symm
    · cases hcommand
  · rw [hthreads]
    exact hwf.threads
  · intro other found thread hfound hrole
    rw [hthreads]
    rcases hbefore other found hfound with ⟨command, hcommand⟩ | ⟨old, hold, hsame⟩
    · rw [hrole] at hcommand
      cases hcommand
    · exact hwf.known other old thread hold (hsame.trans hrole)
  · intro first second found next hfirst hrole hsecond hnextRole
    rcases hbefore first found hfirst with ⟨command, hcommand⟩ | ⟨old, hold, hsame⟩
    · rw [hrole] at hcommand
      cases hcommand
    · rcases hbefore second next hsecond with ⟨command, hcommand⟩ | ⟨nextOld, hnextOld, hnextSame⟩
      · rw [hnextRole] at hcommand
        cases hcommand
      · exact hwf.onePoller first second old nextOld hold (hsame.trans hrole) hnextOld
          (hnextSame.trans hnextRole)

theorem syncMove {id : Nat} {stage : SyncStage} {event : SessionEvent} (hwf : WellFormed session)
    (hstage : session.syncStage? id = some stage)
    (hmove : SyncMove id session stage event out) : WellFormed out.1 := by
  have hframe := hmove.frame hwf.table hwf.syncs hstage
  have hthreads : out.1.contexts.threads = session.contexts.threads :=
    congrArg (fun backdrop => backdrop.contexts.map (·.thread)) hframe.backdrop
  -- Whatever is no sync afterwards was the same before.
  have hbefore : ∀ other found, out.1.activity? other = some found → found.role ≠ .syncing →
      session.activity? other = some found := by
    intro other found hfound hrole
    cases hknown : session.syncStage? other with
    | none => rw [← hframe.others other hknown, hfound]
    | some old =>
        exact absurd (Activity.role_eq_syncing_iff.mpr
          (hframe.syncs other found (Option.isSome_of_eq_some hknown) hfound)) hrole
  constructor
  · exact hframe.table
  · exact hmove.syncsOk hwf.syncs hstage
  · rw [hthreads]
    exact hwf.threads
  · intro other found thread hfound hrole
    rw [hthreads]
    exact hwf.known other found thread (hbefore other found hfound (by simp [hrole])) hrole
  · intro first second found next hfirst hrole hsecond hnextRole
    exact hwf.onePoller first second found next (hbefore first found hfirst (by simp [hrole]))
      hrole (hbefore second next hsecond (by simp [hnextRole])) hnextRole

/-- Where activities are only taken out and no sync is, order is kept. -/
theorem cancel {isMeant : Activity → Bool} (hwf : WellFormed session)
    (hsyncs : ∀ stage, isMeant (.sync stage) = false) :
    WellFormed (Session.cancel isMeant session).1 := by
  have hbefore : ∀ other found, (Session.cancel isMeant session).1.activity? other = some found →
      session.activity? other = some found := by
    intro other found hfound
    rw [activity?_cancel hwf.table, Option.filter_eq_some_iff] at hfound
    exact hfound.1
  constructor
  · exact hwf.table.cancel isMeant
  · exact hwf.syncs.congr rfl rfl fun id => .inl (syncStage?_of_cancel hwf.table hsyncs id)
  · exact hwf.threads
  · intro other found thread hfound hrole
    exact hwf.known other found thread (hbefore other found hfound) hrole
  · intro first second found next hfirst hrole hsecond hnextRole
    exact hwf.onePoller first second found next (hbefore first found hfirst) hrole
      (hbefore second next hsecond) hnextRole

end WellFormed

/-- A poller among what an attach starts stands first, and comes only where none is. -/
theorem poller_of_attachPrelude {hasPoller isSyncing : Bool} {position : Nat} {found : Activity}
    (hfound : ((if hasPoller then [] else [Activity.poll .starting]) ++
      (if isSyncing then [] else [.sync .starting]))[position]? = some found)
    (hrole : found.role = .polling) : hasPoller = false ∧ position = 0 := by
  have hno : found ∉ (if isSyncing then [] else [.sync .starting] : List Activity) := by
    intro hsync
    rw [List.mem_singleton.mp (List.mem_ite_nil_left.mp hsync).2] at hrole
    cases hrole
  cases hasPoller with
  | true =>
      rw [if_pos rfl, List.nil_append] at hfound
      exact absurd (List.mem_of_getElem? hfound) hno
  | false =>
      refine ⟨rfl, ?_⟩
      cases position with
      | zero => rfl
      | succ position =>
          rw [if_neg Bool.false_ne_true, List.cons_append, List.nil_append,
            List.getElem?_cons_succ] at hfound
          exact absurd (List.mem_of_getElem? hfound) hno

/-- What an attach starts: a poller unless there is one, and the first sync. -/
theorem wellFormed_attachPrelude {session : Session} {out : Session × List Effect}
    (hwf : WellFormed session) {isSyncing : Bool}
    (hspawns : Spawns ((if session.hasPoller then [] else [.poll .starting]) ++
      (if isSyncing then [] else [.sync .starting])) session out) : WellFormed out.1 := by
  apply hwf.spawns hspawns
  · intro activity hactivity thread hrole
    obtain rfl | rfl := eq_of_mem_attachPrelude hactivity <;> cases hrole
  · intro stage hstage
    obtain hpoller | hsync := eq_of_mem_attachPrelude hstage
    · cases hpoller
    · exact Activity.sync.inj hsync
  · intro i j activity next hactivity hrole
    obtain ⟨hnone, hzero⟩ := poller_of_attachPrelude hactivity hrole
    refine ⟨hnone, fun hnext hnextRole => ?_⟩
    rw [hzero, (poller_of_attachPrelude hnext hnextRole).2]

theorem Reaction.wellFormed {session : Session} {event : SessionEvent}
    {out : Session × List Effect} (hreaction : Reaction session event out)
    (hwf : WellFormed session) : WellFormed out.1 := by
  cases hreaction with
  | answered hplain hsilent => exact hwf.silent hsilent
  | recounted hcommand hsilent =>
      refine WellFormed.silent ?_ hsilent
      exact hwf.congr rfl rfl rfl rfl
  | started hplain hfresh hspawns =>
      apply hwf.spawns_unpolled hspawns
      · intro activity hactivity thread hrole
        rcases hfresh activity hactivity with hserving | ⟨known, hknown, hattaching⟩
        · rw [hrole] at hserving
          cases hserving
        · rw [hrole, Role.attaching.injEq] at hattaching
          exact hattaching ▸ hknown
      · intro stage hstage
        rcases hfresh _ hstage with hserving | ⟨known, hknown, hattaching⟩
        · cases hserving
        · cases hattaching
      · intro activity hactivity hrole
        rcases hfresh activity hactivity with hserving | ⟨known, hknown, hattaching⟩
        · rw [hrole] at hserving
          cases hserving
        · rw [hrole] at hattaching
          cases hattaching
  | breakpointsSet hcommand haccepted hspawns =>
      refine WellFormed.spawns_unpolled ?_ hspawns (by simp [Activity.role]) (by simp)
        (by simp [Activity.role])
      exact hwf.congr rfl rfl rfl rfl
  | @commandStarted request thread context mode out hsets hbegun hget hspawns =>
      refine WellFormed.spawns_unpolled ?_ hspawns (by simp [Activity.role]) (by simp)
        (by simp [Activity.role])
      exact hwf.congr rfl rfl (Contexts.threads_startCommand _ thread) rfl
  | @shutDown event rest hevent hplain hsilent =>
      have hflag : WellFormed { session with isShutDown := true } := hwf.congr rfl rfl rfl rfl
      have hcancelled : WellFormed (shutdown session).1 := hflag.cancel fun _ => rfl
      have hdone : WellFormed rest.1 := hcancelled.silent hsilent
      exact hdone
  | released => exact hwf.congr rfl rfl rfl rfl
  | absent hfor hnone => exact hwf
  | moved hfor hactivity hpolling hsyncing hplain hlocal hpresent =>
      exact hwf.moves hactivity hsyncing hlocal fun next hrole => .inl hrole
  | @attached id outcome thread context timer suffix mode paths prelude rest hactivity hbegun
      hpaths hprelude hget hlocal hpresent =>
      have hbase : WellFormed { session with paths := some paths } := hwf.congr rfl rfl rfl rfl
      have hmid : WellFormed prelude.1 := wellFormed_attachPrelude hbase hprelude
      have hmidActivity : prelude.1.activity? id =
          some (.attach thread (.asking timer suffix)) := by
        rw [hprelude.activity? hbase.table, if_pos (hwf.table.lt_of_activity? hactivity)]
        exact hactivity
      have hbegun : WellFormed { prelude.1 with
          contexts := (prelude.1.contexts.startCommand thread).2 } :=
        hmid.congr rfl rfl (Contexts.threads_startCommand _ thread) rfl
      have hdone : WellFormed rest.1 := hbegun.moves hmidActivity (by simp [Activity.role]) hlocal
        fun next hrole => .inr ⟨thread, hrole⟩
      exact hdone
  | @commandEnded id event thread out hended hlocal =>
      obtain ⟨outcome, activity, -, hactivity, hrole⟩ := endedCommand?_eq_some hended
      have hbase : WellFormed
          { session with contexts := session.contexts.endCommand thread } :=
        hwf.congr rfl rfl (Contexts.threads_endCommand _ thread) rfl
      exact hbase.moves hactivity (by simp [hrole]) hlocal fun next hnone => hnone.elim
  | ticked hfor hactivity hlocal =>
      exact hwf.moves hactivity (by simp [Activity.role]) hlocal fun next hrole => .inl hrole
  | @paused id outcome timer target others state report rest hactivity hreply haccepted hreport
      hlocal =>
      have hmid : WellFormed report.1 := by
        refine hwf.congr hreport.activities hreport.nextActivity ?_ hreport.syncTurns
        exact (congrArg (fun backdrop => backdrop.contexts.map (·.thread))
          hreport.backdrop).trans (Contexts.threads_applyPoll _ target state)
      have hmidActivity : report.1.activity? id =
          some (.poll (.asking timer target others)) := by
        rw [activity?_congr hreport.activities]
        exact hactivity
      have hdone : WellFormed rest.1 := hmid.moves hmidActivity (by simp [Activity.role]) hlocal
        fun next hrole => .inl hrole
      exact hdone
  | synced hfor hstage hmove => exact hwf.syncMove hstage hmove

/-! ## What the activities share -/

/-- What an event does to all that the activities share. -/
inductive BackdropMove (session : Session) (event : SessionEvent) (after : Session) : Prop
  | kept (hafter : after.backdrop = session.backdrop)
  | recounted {request : Request} {linesStartAt1 : Bool} (hevent : event = .request request)
      (hcommand : request.command = "initialize")
      (hafter : after.backdrop = { session with linesStartAt1 }.backdrop)
  | breakpointsSet {path : String} {lines : List Int}
      (haccepted : session.setsBreakpoints event = true)
      (hafter : after.backdrop =
        { session with breakpoints := (session.breakpoints.replace path lines).2 }.backdrop)
  | commandStarted {id : Nat} {thread : Int}
      (hbegun : session.begunCommand? event = some (id, thread))
      (hafter : after.backdrop =
        { session with contexts := (session.contexts.startCommand thread).2 }.backdrop)
  | shutDown (hevent : ∀ id, ¬ event.IsFor id)
      (hended : ∀ id activity, after.activity? id = some activity →
        activity.endsAtShutdown = false)
      (hafter : after.backdrop = { session with isShutDown := true }.backdrop)
  | released (hafter : after.backdrop = { session with held := false }.backdrop)
  | attached {id : Nat} {thread : Int} {paths : ResourceDirectories}
      (hbegun : session.begunCommand? event = some (id, thread))
      (hpaths : session.paths = none ∨ session.paths = some paths)
      (hafter : after.backdrop = { session with
        paths := some paths, contexts := (session.contexts.startCommand thread).2 }.backdrop)
  | commandEnded {id : Nat} {thread : Int}
      (hended : session.endedCommand? event = some (id, thread))
      (hafter : after.backdrop =
        { session with contexts := session.contexts.endCommand thread }.backdrop)
  | paused {id : Nat} {outcome : Outcome} {timer : Timer} {target : PlannedPoll}
      {others : List PlannedPoll} {state : RunState} (hevent : event = .outcome id outcome)
      (hactivity : session.activity? id = some (.poll (.asking timer target others)))
      (hafter : after.backdrop =
        { session with contexts := (session.contexts.applyPoll target state).2 }.backdrop)

/-- After a shutdown nothing is left that it ends. -/
theorem lasting_of_shutdown {session : Session} {rest : Session × List Effect}
    (htable : TableOk session) (hsilent : Silent (shutdown session).1 rest) (id : Nat)
    (activity : Activity) (hactivity : rest.1.activity? id = some activity) :
    activity.endsAtShutdown = false := by
  have hflag : TableOk { session with isShutDown := true } := htable.congr rfl rfl
  have hlookup := (hsilent.activity? id).trans (activity?_cancel hflag Activity.endsAtShutdown id)
  rw [hactivity] at hlookup
  simpa using (Option.filter_eq_some_iff.mp hlookup.symm).2

theorem Reaction.backdropMove {session : Session} {event : SessionEvent}
    {out : Session × List Effect} (hreaction : Reaction session event out)
    (hwf : WellFormed session) : BackdropMove session event out.1 := by
  cases hreaction with
  | answered hplain hsilent => exact .kept hsilent.backdrop
  | recounted hcommand hsilent => exact .recounted rfl hcommand hsilent.backdrop
  | started hplain hfresh hspawns => exact .kept hspawns.backdrop
  | breakpointsSet hcommand haccepted hspawns => exact .breakpointsSet haccepted hspawns.backdrop
  | commandStarted hsets hbegun hget hspawns => exact .commandStarted hbegun hspawns.backdrop
  | shutDown hevent hplain hsilent =>
      have hended := lasting_of_shutdown hwf.table hsilent
      exact .shutDown hevent hended hsilent.backdrop
  | released => exact .released rfl
  | absent hfor hnone => exact .kept rfl
  | moved hfor hactivity hpolling hsyncing hplain hlocal hpresent => exact .kept hlocal.backdrop
  | @attached id outcome thread context timer suffix mode paths prelude rest hactivity hbegun
      hpaths hprelude hget hlocal hpresent =>
      have hchanged : { prelude.1 with
          contexts := (prelude.1.contexts.startCommand thread).2 }.backdrop =
          { prelude.1.backdrop with contexts := prelude.1.backdrop.contexts.map fun context =>
            if context.thread = thread then context.startCommand else context } := rfl
      refine .attached hbegun hpaths ?_
      rw [hlocal.backdrop, hchanged, hprelude.backdrop]
      rfl
  | commandEnded hended hlocal => exact .commandEnded hended hlocal.backdrop
  | ticked hfor hactivity hlocal => exact .kept hlocal.backdrop
  | paused hactivity hreply haccepted hreport hlocal =>
      exact .paused rfl hactivity (hlocal.backdrop.trans hreport.backdrop)
  | synced hfor hstage hmove => exact .kept (hmove.frame hwf.table hwf.syncs hstage).backdrop

/-! ## Steps and runs -/

/-- At most an abandoned poller is taken out. -/
structure Reaped (session : Session) (out : Session × List Effect) : Prop where
  backdrop : out.1.backdrop = session.backdrop
  syncTurns : out.1.syncTurns = session.syncTurns
  nextActivity : out.1.nextActivity = session.nextActivity
  activity? : ∀ id, out.1.activity? id = session.activity? id ∨
    out.1.activity? id = none ∧ ∃ stage, session.activity? id = some (.poll stage)
  effects : ∀ effect ∈ out.2, effect.Within noCall

theorem reaped_reap {session : Session} (htable : TableOk session) :
    Reaped session (reap session) := by
  unfold reap
  split
  · exact ⟨rfl, rfl, rfl, fun _ => .inl rfl, by simp⟩
  · refine ⟨rfl, rfl, rfl, fun id => ?_, within_cancel _ session⟩
    rw [activity?_cancel htable]
    cases hactivity : session.activity? id with
    | none => exact .inl rfl
    | some activity =>
        cases hpoller : activity.isPoller with
        | false => exact .inl (by simp [hpoller])
        | true =>
            refine .inr ⟨by simp [hpoller], ?_⟩
            cases activity <;> first | exact ⟨_, rfl⟩ | cases hpoller

theorem wellFormed_reap {session : Session} (hwf : WellFormed session) :
    WellFormed (reap session).1 := by
  unfold reap
  split
  · exact hwf
  · exact hwf.cancel fun _ => rfl

theorem wellFormed_step {session : Session} (hwf : WellFormed session) (now : Nat)
    (event : SessionEvent) : WellFormed (step now event session).1 :=
  wellFormed_reap ((reaction_react hwf now event).wellFormed hwf)

theorem wellFormed_run {session : Session} (hwf : WellFormed session)
    (events : List (Nat × SessionEvent)) : WellFormed (run events session).1 := by
  induction events generalizing session with
  | nil => exact hwf
  | cons event events ih => exact ih (wellFormed_step hwf event.1 event.2)

/-- A run in two parts is the second part after the first. -/
theorem run_append (first second : List (Nat × SessionEvent)) :
    run (first ++ second) = (run first).andThen (run second) := by
  induction first with
  | nil =>
      funext session
      simp [run, Turn.andThen]
  | cons event first ih => rw [List.cons_append, run, run, ih, Turn.andThen_assoc]

/-! ## Sessions that nobody keeps -/

/-- A session that nobody holds has no poller. -/
def Tidy (session : Session) : Prop := session.isAlive = true ∨ session.hasPoller = false

theorem Tidy.congr {session other : Session} (htidy : session.Tidy)
    (hheld : other.held = session.held) (hactivities : other.activities = session.activities) :
    other.Tidy := by
  simpa only [Tidy, isAlive, hasPoller, hheld, hactivities] using htidy

theorem Tidy.reap_eq {session : Session} (htidy : session.Tidy) :
    reap session = (session, []) := by
  unfold reap
  split
  · rfl
  · next hgone =>
      have hpolls : ∀ entry ∈ session.activities, entry.2.isPoller = false := by
        intro entry hentry
        have hnone := htidy.resolve_left hgone
        rw [hasPoller, List.any_eq_false] at hnone
        exact Bool.eq_false_iff.mpr (hnone entry hentry)
      have hkept : session.activities.filter (fun entry => !entry.2.isPoller) =
          session.activities :=
        List.filter_eq_self.mpr fun entry hentry => by rw [hpolls entry hentry]; rfl
      have hnone : session.activities.filter (fun entry => entry.2.isPoller) = [] :=
        List.filter_eq_nil_iff.mpr fun entry hentry => by rw [hpolls entry hentry]; simp
      simp only [cancel, hkept, hnone, List.map_nil]

theorem tidy_reap (session : Session) : (reap session).1.Tidy := by
  unfold reap
  split
  · next halive => exact .inl halive
  · refine .inr ?_
    rw [hasPoller, List.any_eq_false]
    intro entry hentry
    have hkept := (List.mem_filter.mp hentry).2
    simpa using hkept

theorem tidy_run (config : BackendConfig) (events : List (Nat × SessionEvent)) :
    (run events (ofConfig config)).1.Tidy := by
  induction events using List.reverseRecOn with
  | nil => exact .inl rfl
  | append_singleton events event ih =>
      rw [run_append, Turn.andThen_fst]
      exact tidy_reap _

end DebugBridge.Session
