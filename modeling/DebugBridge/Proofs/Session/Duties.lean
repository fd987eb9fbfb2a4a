import DebugBridge.Proofs.Session.Notices
import DebugBridge.Proofs.Session.Others

/-!
# Duties

What an activity was started for, whatever stage it is in.  It keeps its duty as long as it lives,
and new activities are those that an event calls for, in the order of their numbers.
-/

namespace DebugBridge

/-- An activity without its stage. -/
inductive Duty
  | attach (thread : Int)
  | poll
  | sync
  | resume (request : Request) (thread : Int) (suffix : String) (mode : ResumeMode)
  | evaluate (request : Request) (expression : String)
  | restart (request : Request) (resource : String)

/-- The request that an activity answers when it is through. -/
def Duty.request? : Duty → Option Request
  | .resume request _ _ _ => some request
  | .evaluate request _ => some request
  | .restart request _ => some request
  | _ => none

def Activity.duty : Activity → Duty
  | .attach thread _ => .attach thread
  | .poll _ => .poll
  | .sync _ => .sync
  | .resume request thread suffix mode _ => .resume request thread suffix mode
  | .evaluate request expression _ => .evaluate request expression
  | .restart request resource _ => .restart request resource

/-- Where the role tells it, the duty is known. -/
theorem Activity.duty_of_attaching {activity : Activity} {thread : Int}
    (hrole : activity.role = .attaching thread) : activity.duty = .attach thread := by
  cases activity with
  | attach other stage =>
      cases stage with
      | resuming name suffix mode => cases hrole
      | starting => cases hrole; rfl
      | waiting timer => cases hrole; rfl
      | asking timer suffix => cases hrole; rfl
  | poll stage => cases hrole
  | sync stage => cases hrole
  | resume request other suffix mode stage => cases hrole
  | evaluate request expression stage => cases hrole
  | restart request resource stage => cases hrole

theorem Activity.attach_of_duty {activity : Activity} {thread : Int}
    (hduty : activity.duty = .attach thread) : ∃ stage, activity = .attach thread stage := by
  cases activity with
  | attach other stage =>
      cases hduty
      exact ⟨stage, rfl⟩
  | poll stage => cases hduty
  | sync stage => cases hduty
  | resume request other suffix mode stage => cases hduty
  | evaluate request expression stage => cases hduty
  | restart request resource stage => cases hduty

namespace Session

/-- The activities that an errand is entrusted to. -/
def bearers (session : Session) (request : Request) : Errand → List Activity
  | .launch _ _ =>
    if session.isShutDown then []
    else session.contexts.contexts.map fun context => .attach context.thread .starting
  | .resume thread suffix mode => [.resume request thread suffix mode .starting]
  | .restart resource => [.restart request resource .starting]
  | .evaluate expression => [.evaluate request expression .starting]

/-- The activities that an event starts. -/
def newcomers (session : Session) (event : SessionEvent) : List Activity :=
  match event with
  | .request request =>
    match session.errand? request with
    | some errand => session.bearers request errand
    | none =>
      if session.setsBreakpoints event && session.paths.isSome then [.sync .starting] else []
  | .outcome _ _ =>
    if (session.attachment? event).isSome then
      (if session.hasPoller then [] else [.poll .starting]) ++
        (if session.paths.isSome then [] else [.sync .starting])
    else []
  | _ => []

/-- The activities from a number on are these ones. -/
structure Grows (fresh : List Activity) (next : Nat) (after : Session) : Prop where
  nextActivity : after.nextActivity = next + fresh.length
  activity? : ∀ id, next ≤ id → after.activity? id = fresh[id - next]?

section Grows

variable {session : Session} {fresh : List Activity} {out : Session × List Effect}

theorem Grows.of_spawns {next : Nat} (hspawns : Spawns fresh session out)
    (htable : TableOk session) (hnext : session.nextActivity = next) :
    Grows fresh next out.1 where
  nextActivity := hnext ▸ hspawns.nextActivity
  activity? id hid := by
    subst hnext
    rw [hspawns.activity? htable, if_neg (Nat.not_lt.mpr hid)]

/-- Nothing is new where the next number stays. -/
theorem Grows.of_nextActivity (htable : TableOk out.1)
    (hnext : out.1.nextActivity = session.nextActivity) :
    Grows [] session.nextActivity out.1 where
  nextActivity := hnext
  activity? id hid := by
    rw [htable.activity?_eq_none (hnext ▸ hid)]
    rfl

end Grows

/-! ## Requests -/

section Requests

variable {request : Request} {session : Session} {out : Session × List Effect}

/-- A launch attaches to every context. -/
theorem spawns_spawnAttaches {base : Session} (hshut : base.isShutDown = session.isShutDown)
    (hcontexts : base.contexts = session.contexts) (arguments : LaunchArguments)
    (serverPath : String) :
    Spawns (session.bearers request (.launch arguments serverPath)) base (spawnAttaches base) := by
  simp only [bearers, spawnAttaches, hshut, hcontexts]
  split
  · exact Spawns.of_silent (Silent.refl base)
  · have hall := spawns_all (session.contexts.contexts.map fun context =>
      .attach context.thread .starting) base
    rw [List.map_map] at hall
    exact hall

theorem grows_launch (htable : TableOk session) (hout : launch request session = .ok out) :
    ∃ errand, session.launchErrand? request = some errand ∧
      Grows (session.bearers request errand) session.nextActivity out.1 := by
  rcases launch_eq request session with ⟨arguments, serverPath, -, -, herrand, haccepted⟩ |
      ⟨-, fault, hrefused⟩
  · refine ⟨_, herrand, ?_⟩
    rw [haccepted] at hout
    cases hout
    have htracing : ∀ base : Session, Silent base (setTracing arguments.trace base) :=
      fun base => ⟨rfl, rfl, rfl, rfl, by simp [setTracing]⟩
    rw [Turn.all_cons, Turn.change_andThen, Turn.all_cons, Turn.all_cons, Turn.all_cons,
      Turn.all_nil, Turn.andThen_idle]
    refine .of_spawns (Spawns.silent_andThen (htracing _)
      (Spawns.silent_andThen (silent_log _ _ _ _) (spawns_spawnAttaches ?_ ?_ _ _)))
      (htable.congr rfl rfl) rfl
    · rfl
    · rfl
  · rw [hrefused] at hout
    cases hout

theorem grows_restart (htable : TableOk session) (hout : restart request session = .ok out) :
    ∃ errand, session.resourceName.map Errand.restart = some errand ∧
      Grows (session.bearers request errand) session.nextActivity out.1 := by
  rcases restart_eq request session with ⟨resource, hresource, haccepted⟩ | ⟨-, fault, hrefused⟩
  · rw [haccepted] at hout
    cases hout
    exact ⟨.restart resource, by rw [hresource]; rfl, .of_spawns (spawns_spawn _ _) htable rfl⟩
  · rw [hrefused] at hout
    cases hout

theorem grows_evaluate (htable : TableOk session) (hout : evaluate request session = .ok out) :
    ∃ errand, evaluateErrand? request = some errand ∧
      Grows (session.bearers request errand) session.nextActivity out.1 := by
  rcases evaluate_eq request session with ⟨expression, herrand, haccepted⟩ | ⟨-, fault, hrefused⟩
  · rw [haccepted] at hout
    cases hout
    exact ⟨.evaluate expression, herrand, .of_spawns (spawns_spawn _ _) htable rfl⟩
  · rw [hrefused] at hout
    cases hout

theorem grows_resume {mode : ResumeMode} (htable : TableOk session)
    (hout : resume mode request session = .ok out) :
    ∃ errand, session.resumeErrand? mode request = some errand ∧
      Grows (session.bearers request errand) session.nextActivity out.1 := by
  rcases resume_eq mode request session with ⟨thread, context, hthread, hget, haccepted⟩ |
      ⟨-, fault, hrefused⟩
  · refine ⟨.resume thread context.suffix mode, by simp [resumeErrand?, hthread, hget], ?_⟩
    rw [haccepted] at hout
    cases hout
    rw [Turn.all_cons, Turn.change_andThen, Turn.all_cons, Turn.all_cons, Turn.all_nil,
      Turn.andThen_idle]
    exact .of_spawns (Spawns.silent_andThen (silent_log _ _ _ _) (spawns_spawn _ _))
      (htable.congr rfl rfl) rfl
  · rw [hrefused] at hout
    cases hout

theorem grows_setBreakpoints (htable : TableOk session)
    (hout : setBreakpoints request session = .ok out) :
    Grows (if session.paths.isSome then [.sync .starting] else []) session.nextActivity out.1 := by
  obtain ⟨arguments, -, hout⟩ := bind_eq_ok.mp hout
  obtain ⟨path, -, hout⟩ := bind_eq_ok.mp hout
  cases hout
  rw [Turn.all_cons, Turn.change_andThen, Turn.all_cons, Turn.all_cons, Turn.all_nil,
    Turn.andThen_idle]
  refine .of_spawns (Spawns.silent_andThen (silent_respond request _ _) ?_)
    (htable.congr rfl rfl) rfl
  by_cases hpaths : session.paths.isSome = true
  · rw [if_pos hpaths, if_pos hpaths]
    exact spawns_spawn _ _
  · rw [if_neg hpaths, if_neg hpaths]
    exact Spawns.of_silent (silent_log _ _ _ _)

/-- An accepted request starts what bears its errand, and for breakpoints a sync. -/
theorem grows_handler {command : String} (htable : TableOk session)
    (hout : handler command request session = .ok out) :
    Grows (match session.errandFor command request with
      | some errand => session.bearers request errand
      | none =>
        if command = "setBreakpoints" ∧ session.paths.isSome = true then [.sync .starting] else [])
      session.nextActivity out.1 := by
  have hplain : ∀ {after : Session}, after.activities = session.activities →
      after.nextActivity = session.nextActivity → command ≠ "setBreakpoints" →
      Grows (if command = "setBreakpoints" ∧ session.paths.isSome = true then [.sync .starting]
        else []) session.nextActivity after := by
    intro after hactivities hnext hsets
    rw [if_neg fun hboth => hsets hboth.1]
    exact @Grows.of_nextActivity session (after, []) (htable.congr hactivities hnext) hnext
  have herrand : ∀ {errand? : Option Errand}, (∃ errand, errand? = some errand ∧
      Grows (session.bearers request errand) session.nextActivity out.1) →
      Grows (match errand? with
        | some errand => session.bearers request errand
        | none =>
          if command = "setBreakpoints" ∧ session.paths.isSome = true then [.sync .starting]
          else []) session.nextActivity out.1 := by
    rintro - ⟨errand, rfl, hgrows⟩
    exact hgrows
  have hends : terminate request session = .ok out → command ≠ "setBreakpoints" →
      Grows (if command = "setBreakpoints" ∧ session.paths.isSome = true then [.sync .starting]
        else []) session.nextActivity out.1 := by
    intro hterminate hsets
    rw [if_neg fun hboth => hsets hboth.1]
    cases hterminate
    have hflag : TableOk { session with isShutDown := true } := htable.congr rfl rfl
    have hcancelled : TableOk (shutdown session).1 := hflag.cancel Activity.endsAtShutdown
    exact .of_nextActivity (hcancelled.congr rfl rfl) rfl
  unfold handler at hout
  split at hout
  · obtain ⟨arguments, -, hout⟩ := bind_eq_ok.mp hout
    cases hout
    exact hplain rfl rfl (by simp)
  · exact herrand (grows_launch htable hout)
  · cases hout
    exact hplain rfl rfl (by simp)
  · exact herrand (grows_restart htable hout)
  · have hsets := grows_setBreakpoints htable hout
    by_cases hpaths : session.paths.isSome = true
    · rw [if_pos hpaths] at hsets
      rw [if_pos ⟨rfl, hpaths⟩]
      exact hsets
    · rw [if_neg hpaths] at hsets
      rw [if_neg fun hboth => hpaths hboth.2]
      exact hsets
  · cases hout
    exact hplain rfl rfl (by simp)
  · obtain ⟨arguments, -, hout⟩ := bind_eq_ok.mp hout
    obtain ⟨thread, -, hout⟩ := bind_eq_ok.mp hout
    split at hout
    · cases hout
    · cases hout
      exact hplain rfl rfl (by simp)
  · obtain ⟨arguments, -, hout⟩ := bind_eq_ok.mp hout
    cases hout
    exact hplain rfl rfl (by simp)
  · obtain ⟨arguments, -, hout⟩ := bind_eq_ok.mp hout
    obtain ⟨reference, -, hout⟩ := bind_eq_ok.mp hout
    split at hout
    · cases hout
    · cases hout
      exact hplain rfl rfl (by simp)
  · exact herrand (grows_resume htable hout)
  · exact herrand (grows_resume htable hout)
  · exact herrand (grows_resume htable hout)
  · exact herrand (grows_evaluate htable hout)
  · exact hends hout (by simp)
  · exact hends hout (by simp)
  · cases hout
    have hsets : command ≠ "setBreakpoints" := by assumption
    have hnone : session.errandFor command request = none := by
      unfold errandFor
      split <;> first | contradiction | rfl
    rw [hnone]
    exact hplain rfl rfl hsets

theorem grows_handle (htable : TableOk session) (request : Request) :
    Grows (session.newcomers (.request request)) session.nextActivity
      (handle request session).1 := by
  cases hout : handler request.command request session with
  | ok out =>
      have hgrows := grows_handler htable hout
      have hsets : session.setsBreakpoints (.request request) =
          decide (request.command = "setBreakpoints") := by
        by_cases hcommand : request.command = "setBreakpoints"
        · rw [hcommand] at hout
          have haccepted : setBreakpoints request session = .ok out := hout
          simp [setsBreakpoints, hcommand, haccepted, Except.isOk, Except.toBool]
        · simp [setsBreakpoints, hcommand]
      simp only [handle, hout, newcomers, errand?, hsets]
      simpa only [Bool.and_eq_true, decide_eq_true_eq] using hgrows
  | error fault =>
      have hnone : session.errand? request = none := errandFor_eq_none_of_refused hout
      have hsets := (plain_of_refused hout).sets
      simp only [handle, hout, newcomers, hnone, hsets, Bool.false_and]
      have hsilent := silent_refuse request fault session
      exact .of_nextActivity (hsilent.table htable) hsilent.nextActivity

end Requests

/-! ## Duties are kept -/

section Keeps

variable {id : Nat} {session : Session} {event : SessionEvent} {out : Session × List Effect}

/-- After the turn, the activity with this number has this duty or is gone. -/
def Bears (id : Nat) (duty : Duty) (after : Session) : Prop :=
  ∀ activity, after.activity? id = some activity → activity.duty = duty

theorem bears_put (session : Session) (activity : Activity) :
    Bears id activity.duty (put id activity session).1 := by
  intro found hfound
  rw [activity?_put, if_pos rfl, Option.map_eq_some_iff] at hfound
  obtain ⟨-, -, rfl⟩ := hfound
  rfl

theorem bears_finish (session : Session) (duty : Duty) : Bears id duty (finish id session).1 := by
  intro found hfound
  rw [activity?_finish, if_pos rfl] at hfound
  cases hfound

theorem bears_same {activity : Activity} (hactivity : session.activity? id = some activity) :
    Bears id activity.duty session := by
  intro found hfound
  rw [hactivity, Option.some.injEq] at hfound
  rw [hfound]

theorem bears_attachTick (session : Session) (thread : Int) (timer : Timer) (now : Nat) :
    Bears id (.attach thread) (attachTick id thread timer now session).1 := by
  unfold attachTick
  split
  · split
    · exact bears_finish session _
    · exact bears_put session (.attach thread _)
  · exact bears_put session (.attach thread _)

theorem bears_resumeAttached (session : Session) (thread : Int) (mode : ResumeMode) :
    Bears id (.attach thread) (resumeAttached id thread mode session).1 := by
  unfold resumeAttached
  split
  · exact bears_finish session _
  · exact bears_put _ (.attach thread _)

theorem bears_attachInfo (session : Session) (thread : Int) (timer : Timer) (now : Nat)
    (reply : Except BackendFault ResourceInfo) :
    Bears id (.attach thread) (attachInfo id thread timer now reply session).1 := by
  cases reply with
  | error fault => exact bears_attachTick _ thread timer now
  | ok info =>
      simp only [attachInfo]
      split
      · unfold attach
        split
        · exact bears_finish session _
        · exact bears_resumeAttached _ thread _
      · exact bears_attachTick _ thread timer now

theorem bears_pollTick (session : Session) (timer : Timer) (now : Nat) :
    Bears id .poll (pollTick id timer now session).1 := by
  unfold pollTick
  split
  · split
    · exact bears_put session (.poll _)
    · exact bears_put session (.poll _)
  · exact bears_put session (.poll _)

theorem bears_pollNext (session : Session) (timer : Timer) (now : Nat)
    (others : List PlannedPoll) : Bears id .poll (pollNext id timer now others session).1 := by
  cases others with
  | nil => exact bears_pollTick session timer now
  | cons target others => exact bears_put session (.poll _)

theorem bears_evaluateTick (session : Session) (request : Request) (expression : String)
    (deadline now : Nat) :
    Bears id (.evaluate request expression)
      (evaluateTick id request expression deadline now session).1 := by
  unfold evaluateTick
  split
  · exact bears_put session (.evaluate request expression _)
  · exact bears_put session (.evaluate request expression _)

theorem bears_wakeActivity {activity : Activity} (hactivity : session.activity? id = some activity)
    (hsyncing : activity.role ≠ .syncing) (now : Nat) :
    Bears id activity.duty (wakeActivity now id session activity session).1 := by
  cases activity with
  | attach thread stage =>
      cases stage with
      | starting => exact bears_attachTick session thread _ now
      | waiting timer => exact bears_attachTick session thread timer now
      | asking timer suffix => exact bears_same hactivity
      | resuming name suffix mode => exact bears_same hactivity
  | poll stage =>
      cases stage with
      | starting => exact bears_pollTick session _ now
      | waiting timer => exact bears_pollTick session timer now
      | asking timer target others => exact bears_same hactivity
  | sync stage => exact absurd rfl hsyncing
  | resume request thread suffix mode stage =>
      cases stage with
      | starting => exact bears_put session (.resume request thread suffix mode _)
      | calling => exact bears_same hactivity
  | evaluate request expression stage =>
      cases stage with
      | starting => exact bears_put session (.evaluate request expression _)
      | submitting => exact bears_same hactivity
      | sleeping deadline => exact bears_evaluateTick session request expression deadline now
      | reading => exact bears_same hactivity
  | restart request resource stage =>
      cases stage with
      | starting => exact bears_put session (.restart request resource _)
      | calling => exact bears_same hactivity

theorem bears_outcomeActivity {activity : Activity}
    (hactivity : session.activity? id = some activity) (hsyncing : activity.role ≠ .syncing)
    (now : Nat) (outcome : Outcome) :
    Bears id activity.duty (outcomeActivity now id outcome activity session).1 := by
  cases activity with
  | attach thread stage =>
      cases stage with
      | starting => exact bears_same hactivity
      | waiting timer => exact bears_same hactivity
      | asking timer suffix => exact bears_attachInfo session thread timer now _
      | resuming name suffix mode => exact bears_finish _ _
  | poll stage =>
      cases stage with
      | starting => exact bears_same hactivity
      | waiting timer => exact bears_same hactivity
      | asking timer target others => exact bears_pollNext _ timer now others
  | sync stage => exact absurd rfl hsyncing
  | resume request thread suffix mode stage =>
      cases stage with
      | starting => exact bears_same hactivity
      | calling => exact bears_finish _ _
  | evaluate request expression stage =>
      cases stage with
      | starting => exact bears_same hactivity
      | submitting => exact bears_evaluateTick _ request expression _ now
      | sleeping deadline => exact bears_same hactivity
      | reading => exact bears_finish _ _
  | restart request resource stage =>
      cases stage with
      | starting => exact bears_same hactivity
      | calling => exact bears_finish _ _

/-- An activity is left alone by events for others, unless a sync moves, or all is ended that a
shutdown ends. -/
theorem Reaction.still_or_ended (hreaction : Reaction session event out) (hwf : WellFormed session)
    {activity : Activity} (hactivity : session.activity? id = some activity)
    (hother : event.IsFor id → activity.role = .syncing) :
    out.1.activity? id = some activity ∨
      (∃ mover stage,
        session.syncStage? mover = some stage ∧ SyncMove mover session stage event out) ∨
      activity.endsAtShutdown = true ∧ out.1.isShutDown = true ∧
        ∀ other found, out.1.activity? other = some found → found.endsAtShutdown = false := by
  have hbelow := hwf.table.lt_of_activity? hactivity
  -- The event moves no other activity than a sync under this number.
  have hne : ∀ {mover : Nat} {moved : Activity}, event.IsFor mover →
      session.activity? mover = some moved → moved.role ≠ .syncing → id ≠ mover := by
    rintro mover moved hfor hmoved hrole rfl
    rw [hactivity, Option.some.injEq] at hmoved
    exact hrole (hmoved ▸ hother hfor)
  cases hreaction with
  | answered hplain hsilent => exact .inl ((hsilent.activity? id).trans hactivity)
  | recounted hcommand hsilent => exact .inl ((hsilent.activity? id).trans hactivity)
  | started hplain hfresh hspawns =>
      exact .inl (((hspawns.activity? hwf.table id).trans (if_pos hbelow)).trans hactivity)
  | breakpointsSet hcommand haccepted hspawns =>
      exact .inl (((hspawns.activity? (hwf.table.congr rfl rfl) id).trans
        (if_pos hbelow)).trans hactivity)
  | commandStarted hsets hbegun hget hspawns =>
      exact .inl (((hspawns.activity? (hwf.table.congr rfl rfl) id).trans
        (if_pos hbelow)).trans hactivity)
  | @shutDown event rest hevent hplain hsilent =>
      have hflag : TableOk { session with isShutDown := true } := hwf.table.congr rfl rfl
      have hlookup : rest.1.activity? id = (session.activity? id).filter
          fun found => !found.endsAtShutdown :=
        (hsilent.activity? id).trans (activity?_cancel hflag Activity.endsAtShutdown id)
      cases hends : activity.endsAtShutdown with
      | false =>
          refine .inl (hlookup.trans ?_)
          rw [hactivity, Option.filter_some, hends]
          rfl
      | true =>
          have hlasting := lasting_of_shutdown hwf.table hsilent
          exact .inr (.inr ⟨rfl, congrArg Backdrop.isShutDown hsilent.backdrop, hlasting⟩)
  | released => exact .inl hactivity
  | absent hfor hnone => exact .inl hactivity
  | moved hfor hmoved hpolling hsyncing hplain hlocal hpresent =>
      exact .inl ((hlocal.others id (hne hfor hmoved hsyncing)).trans hactivity)
  | attached hmoved hbegun hpaths hprelude hget hlocal hpresent =>
      have hother := hlocal.others id (hne (.inr ⟨_, rfl⟩) hmoved (by simp [Activity.role]))
      have hbefore := (hprelude.activity? (hwf.table.congr rfl rfl) id).trans (if_pos hbelow)
      exact .inl (hother.trans (hbefore.trans hactivity))
  | commandEnded hended hlocal =>
      obtain ⟨outcome, moved, rfl, hmoved, hrole⟩ := endedCommand?_eq_some hended
      exact .inl ((hlocal.others id (hne (.inr ⟨_, rfl⟩) hmoved (by simp [hrole]))).trans hactivity)
  | ticked hfor hmoved hlocal =>
      exact .inl ((hlocal.others id (hne hfor hmoved (by simp [Activity.role]))).trans hactivity)
  | paused hmoved hreply haccepted hreport hlocal =>
      have hother := hlocal.others id (hne (.inr ⟨_, rfl⟩) hmoved (by simp [Activity.role]))
      exact .inl (hother.trans ((activity?_congr hreport.activities id).trans hactivity))
  | synced hfor hstage hmove => exact .inr (.inl ⟨_, _, hstage, hmove⟩)

/-- A lasting activity is left alone by events for others, unless a sync moves. -/
theorem Reaction.still (hreaction : Reaction session event out) (hwf : WellFormed session)
    {activity : Activity} (hactivity : session.activity? id = some activity)
    (hlasting : activity.endsAtShutdown = false)
    (hother : event.IsFor id → activity.role = .syncing) :
    out.1.activity? id = some activity ∨ ∃ mover stage,
      session.syncStage? mover = some stage ∧ SyncMove mover session stage event out := by
  rcases hreaction.still_or_ended hwf hactivity hother with hsame | hmove | ⟨hends, -⟩
  · exact .inl hsame
  · exact .inr hmove
  · rw [hlasting] at hends
    cases hends

/-- A sync stays one, whosever turn it is. -/
theorem Reaction.bears_sync (hreaction : Reaction session event out) (hwf : WellFormed session)
    {stage : SyncStage} (hsync : session.activity? id = some (.sync stage)) :
    Bears id .sync out.1 := by
  intro found hfound
  rcases hreaction.still hwf hsync rfl (fun _ => rfl) with hsame | ⟨mover, moved, hstage, hmove⟩
  · rw [hsame, Option.some.injEq] at hfound
    rw [← hfound]
    rfl
  · have hknown : (session.syncStage? id).isSome = true :=
      Option.isSome_of_eq_some (syncStage?_eq_some_iff.mpr hsync)
    obtain ⟨next, rfl⟩ := (hmove.frame hwf.table hwf.syncs hstage).syncs id found hknown hfound
    rfl

/-- An activity keeps its duty at every event. -/
theorem bears_react (hwf : WellFormed session) {activity : Activity}
    (hactivity : session.activity? id = some activity) (now : Nat) (event : SessionEvent) :
    Bears id activity.duty (react now event session).1 := by
  have hreaction := reaction_react hwf now event
  by_cases hsyncing : activity.role = .syncing
  · obtain ⟨stage, rfl⟩ := Activity.role_eq_syncing_iff.mp hsyncing
    exact hreaction.bears_sync hwf hactivity
  · by_cases hfor : event.IsFor id
    · rcases hfor with rfl | ⟨outcome, rfl⟩
      · simp only [react, withActivity, hactivity]
        exact bears_wakeActivity hactivity hsyncing now
      · simp only [react, withActivity, hactivity]
        exact bears_outcomeActivity hactivity hsyncing now outcome
    · intro found hfound
      have hundisturbed := hreaction.undisturbed hwf (hwf.table.lt_of_activity? hactivity)
        (syncStage?_eq_none_of_role hactivity hsyncing) (fun hmine => absurd hmine hfor)
      rcases hundisturbed.activity? with hsame | hgone
      · rw [hsame, hactivity, Option.some.injEq] at hfound
        rw [hfound]
      · rw [hgone] at hfound
        cases hfound

theorem bears_step (hwf : WellFormed session) {activity : Activity}
    (hactivity : session.activity? id = some activity) (now : Nat) (event : SessionEvent) :
    Bears id activity.duty (step now event session).1 := by
  intro found hfound
  have hreaped := undisturbed_reap ((reaction_react hwf now event).wellFormed hwf).table id
  rcases hreaped.activity? with hsame | hgone
  · exact bears_react hwf hactivity now event found (hsame ▸ hfound)
  · exact absurd (hgone.symm.trans hfound) (by simp)

/-- What is found under an old number had its duty before. -/
theorem duty_of_step (hwf : WellFormed session) (hbelow : id < session.nextActivity)
    {now : Nat} {after : Activity} (hafter : (step now event session).1.activity? id = some after) :
    ∃ before, session.activity? id = some before ∧ before.duty = after.duty := by
  have hpresent := @present_of_run id session hwf hbelow [(now, event)]
    (Option.isSome_of_eq_some hafter)
  obtain ⟨before, hbefore⟩ := Option.isSome_iff_exists.mp hpresent
  exact ⟨before, hbefore, (bears_step hwf hbefore now event after hafter).symm⟩

end Keeps

/-! ## New activities -/

section New

variable {id : Nat} {session : Session} {event : SessionEvent}

/-- Whatever attaches begins the command that follows. -/
theorem begunCommand?_of_attachment {attachment : Attachment}
    (hattachment : session.attachment? event = some attachment) :
    session.begunCommand? event = some (attachment.activity, attachment.thread) := by
  cases event with
  | outcome mover outcome =>
      simp only [attachment?] at hattachment
      split at hattachment
      · next thread timer suffix launched hactivity hlaunched =>
          split at hattachment
          · next info hreply =>
              split at hattachment
              · next hstarted =>
                  cases hattachment
                  simp [begunCommand?, hactivity, hreply, hstarted, hlaunched]
              · cases hattachment
          · cases hattachment
      · cases hattachment
  | request request => cases hattachment
  | shutdown => cases hattachment
  | release => cases hattachment
  | wake mover => cases hattachment

theorem attachment?_eq_none_of_plain (hplain : Plain session event) :
    session.attachment? event = none := by
  cases hattachment : session.attachment? event with
  | none => rfl
  | some attachment =>
      have hbegun := begunCommand?_of_attachment hattachment
      rw [hplain.begun] at hbegun
      cases hbegun

theorem attachment?_eq_none_of_role {activity : Activity} (hfor : event.IsFor id)
    (hactivity : session.activity? id = some activity)
    (hattaching : ∀ thread, activity.role ≠ .attaching thread) :
    session.attachment? event = none := by
  cases hattachment : session.attachment? event with
  | none => rfl
  | some attachment =>
      have hbegun := begunCommand?_of_attachment hattachment
      rw [begunCommand?_eq_none hfor] at hbegun
      · cases hbegun
      · intro found thread hfound
        rw [hactivity, Option.some.injEq] at hfound
        exact hfound ▸ hattaching thread

theorem newcomers_eq_nil {event : SessionEvent} (hrequest : ∀ request, event ≠ .request request)
    (hnone : session.attachment? event = none) : session.newcomers event = [] := by
  cases event with
  | request request => exact absurd rfl (hrequest request)
  | outcome mover outcome => simp [newcomers, hnone]
  | shutdown => rfl
  | release => rfl
  | wake mover => rfl

/-- Where the next number stays, no activity is new. -/
theorem grows_of_still {out : Session × List Effect} (htable : TableOk out.1)
    (hnext : out.1.nextActivity = session.nextActivity)
    (hrequest : ∀ request, event ≠ .request request) (hnone : session.attachment? event = none) :
    Grows (session.newcomers event) session.nextActivity out.1 := by
  rw [newcomers_eq_nil hrequest hnone]
  exact .of_nextActivity htable hnext

theorem Reaction.grows {out : Session × List Effect} (hreaction : Reaction session event out)
    (hwf : WellFormed session) (hrequest : ∀ request, event ≠ .request request) :
    Grows (session.newcomers event) session.nextActivity out.1 := by
  have htable := (hreaction.wellFormed hwf).table
  cases hreaction with
  | answered hplain hsilent => exact absurd rfl (hrequest _)
  | recounted hcommand hsilent => exact absurd rfl (hrequest _)
  | started hplain hfresh hspawns => exact absurd rfl (hrequest _)
  | breakpointsSet hcommand haccepted hspawns => exact absurd rfl (hrequest _)
  | commandStarted hsets hbegun hget hspawns => exact absurd rfl (hrequest _)
  | shutDown hevent hplain hsilent =>
      exact grows_of_still htable hsilent.nextActivity hrequest
        (attachment?_eq_none_of_plain hplain)
  | released => exact grows_of_still htable rfl hrequest rfl
  | absent hfor hnone =>
      exact grows_of_still htable rfl hrequest
        (attachment?_eq_none_of_plain (plain_of_absent hfor hnone))
  | moved hfor hactivity hpolling hsyncing hplain hlocal hpresent =>
      exact grows_of_still htable hlocal.nextActivity hrequest
        (attachment?_eq_none_of_plain hplain)
  | @attached mover outcome thread context timer suffix mode paths prelude rest hactivity hbegun
      hpaths hprelude hget hlocal hpresent =>
      have hsome : (session.attachment? (.outcome mover outcome)).isSome = true := by
        simp only [begunCommand?, hactivity] at hbegun
        split at hbegun
        · next info hreply =>
            split at hbegun
            · next hready =>
                obtain ⟨hstarted, hlaunched⟩ := Bool.and_eq_true_iff.mp hready
                obtain ⟨launched, hlaunched⟩ := Option.isSome_iff_exists.mp hlaunched
                simp [attachment?, hactivity, hlaunched, hreply, hstarted]
            · cases hbegun
        · cases hbegun
      have hgrows := Grows.of_spawns hprelude (hwf.table.congr rfl rfl) rfl
      have hmover := hwf.table.lt_of_activity? hactivity
      simp only [newcomers, hsome, if_true]
      constructor
      · exact hlocal.nextActivity.trans hgrows.nextActivity
      · intro new hnew
        have hne : new ≠ mover := Nat.ne_of_gt (Nat.lt_of_lt_of_le hmover hnew)
        exact (hlocal.others new hne).trans (hgrows.activity? new hnew)
  | commandEnded hended hlocal =>
      obtain ⟨outcome, activity, rfl, hactivity, hrole⟩ := endedCommand?_eq_some hended
      exact grows_of_still htable hlocal.nextActivity hrequest
        (attachment?_eq_none_of_role (.inr ⟨outcome, rfl⟩) hactivity (by simp [hrole]))
  | ticked hfor hactivity hlocal =>
      exact grows_of_still htable hlocal.nextActivity hrequest
        (attachment?_eq_none_of_role hfor hactivity (by simp [Activity.role]))
  | paused hactivity hreply haccepted hreport hlocal =>
      exact grows_of_still htable (hlocal.nextActivity.trans hreport.nextActivity) hrequest
        (attachment?_eq_none_of_role (.inr ⟨_, rfl⟩) hactivity (by simp [Activity.role]))
  | synced hfor hstage hmove =>
      have hactivity := syncStage?_eq_some_iff.mp hstage
      exact grows_of_still htable (hmove.frame hwf.table hwf.syncs hstage).nextActivity hrequest
        (attachment?_eq_none_of_role hfor hactivity (by simp [Activity.role]))

theorem grows_react (hwf : WellFormed session) (now : Nat) (event : SessionEvent) :
    Grows (session.newcomers event) session.nextActivity (react now event session).1 := by
  cases event with
  | request request => exact grows_handle hwf.table request
  | shutdown => exact (reaction_react hwf now .shutdown).grows hwf (by simp)
  | release => exact (reaction_react hwf now .release).grows hwf (by simp)
  | wake mover => exact (reaction_react hwf now (.wake mover)).grows hwf (by simp)
  | outcome mover outcome =>
      exact (reaction_react hwf now (.outcome mover outcome)).grows hwf (by simp)

/-- A new activity is one that the event calls for. -/
theorem newcomer_of_step (hwf : WellFormed session) (hid : session.nextActivity ≤ id) {now : Nat}
    {activity : Activity} (hactivity : (step now event session).1.activity? id = some activity) :
    (session.newcomers event)[id - session.nextActivity]? = some activity := by
  have hreaped := undisturbed_reap ((reaction_react hwf now event).wellFormed hwf).table id
  rw [← (grows_react hwf now event).activity? id hid]
  rcases hreaped.activity? with hsame | hgone
  · exact hsame.symm.trans hactivity
  · exact absurd (hgone.symm.trans hactivity) (by simp)

end New

end Session

end DebugBridge
