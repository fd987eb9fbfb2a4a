import DebugBridge.Proofs.Simulation.World

/-!
# Filling the backend

While a sync is at work and each of its calls has been accepted, the backend holds what has been
set so far, and what is left of the plan is still to come.
-/

namespace DebugBridge

theorem SyncStage.writes_of_call? {stage : SyncStage} {made : BackendCall}
    (hcall : stage.call? = some made) : made.WritesBreakpoints := by
  cases stage with
  | clearing plan =>
      cases hcall
      trivial
  | setting file line plan =>
      cases hcall
      trivial
  | starting => cases hcall
  | queued => cases hcall
  | admitted => cases hcall

/-- A call is accepted by a reply that tells of success. -/
theorem BackendClient.isOk_accepted_iff (made : BackendCall) (outcome : Outcome) :
    (accepted made outcome).isOk = true ↔
      ∃ reply, outcome = .ok reply ∧ isSuccess reply.status = true := by
  cases outcome with
  | error fault => simp [accepted, bind, Except.bind, Except.isOk, Except.toBool]
  | ok reply =>
      cases hsuccess : isSuccess reply.status with
      | true => simp [accepted, bind, Except.bind, Except.isOk, Except.toBool, hsuccess]
      | false => simp [accepted, bind, Except.bind, Except.isOk, Except.toBool, hsuccess]

theorem SyncStage.success_of_accepts {stage : SyncStage} {outcome : Outcome}
    (haccepts : stage.accepts outcome = true) :
    ∃ reply, outcome = .ok reply ∧ BackendClient.isSuccess reply.status = true := by
  cases stage with
  | clearing plan => exact (BackendClient.isOk_accepted_iff _ _).mp haccepts
  | setting file line plan => exact (BackendClient.isOk_accepted_iff _ _).mp haccepts
  | starting => cases haccepts
  | queued => cases haccepts
  | admitted => cases haccepts

namespace World

variable {world : World} {plan : List (String × Int)}

theorem isGranted_of_accepts {id : Nat} {outcome : Outcome} {stage : SyncStage}
    (hpermits : world.permits (.outcome id outcome) = true)
    (haccepts : stage.accepts outcome = true) : world.isGranted id = true := by
  obtain ⟨reply, rfl, hsuccess⟩ := stage.success_of_accepts haccepts
  simp only [permits, hsuccess, Bool.not_true, Bool.false_or, Bool.and_eq_true] at hpermits
  exact hpermits.2

/-- How far the backend has come with a plan. -/
structure Filling (plan : List (String × Int)) (world : World) : Prop where
  cleared : ∀ id left, world.session.callingStage? id = some (.clearing left) →
    plan = left.rest ∧ (world.isGranted id = true → world.backend.breakpoints = [])
  placed : ∀ id file line left, world.session.callingStage? id = some (.setting file line left) →
    plan = world.backend.breakpoints ++ (if world.isGranted id then [] else [(file, line)]) ++
      left.rest
  through : (∀ id, world.session.callingStage? id = none) → world.backend.breakpoints = plan

namespace Filling

/-- Nothing but the syncs, their calls and the breakpoints matters. -/
theorem congr {other : World} (hfilling : Filling plan world)
    (hcalling : ∀ id, other.session.callingStage? id = world.session.callingStage? id)
    (hgranted : ∀ id stage, world.session.callingStage? id = some stage →
      other.isGranted id = world.isGranted id)
    (hbreakpoints : other.backend.breakpoints = world.backend.breakpoints) :
    Filling plan other where
  cleared id left hstage := by
    rw [hcalling] at hstage
    rw [hgranted id _ hstage, hbreakpoints]
    exact hfilling.cleared id left hstage
  placed id file line left hstage := by
    rw [hcalling] at hstage
    rw [hgranted id _ hstage, hbreakpoints]
    exact hfilling.placed id file line left hstage
  through hnone := by
    rw [hbreakpoints]
    exact hfilling.through fun id => (hcalling id).symm.trans (hnone id)

/-- The one sync that is at work decides. -/
theorem ofCalling {id : Nat} {stage : SyncStage}
    (hcalling : ∀ other, world.session.callingStage? other =
      if other = id then some stage else none)
    (hcleared : ∀ left, stage = .clearing left →
      plan = left.rest ∧ (world.isGranted id = true → world.backend.breakpoints = []))
    (hplaced : ∀ file line left, stage = .setting file line left →
      plan = world.backend.breakpoints ++ (if world.isGranted id then [] else [(file, line)]) ++
        left.rest) : Filling plan world where
  cleared other left hstage := by
    rw [hcalling] at hstage
    split at hstage
    · next hother =>
        rw [hother]
        exact hcleared left (Option.some.inj hstage)
    · cases hstage
  placed other file line left hstage := by
    rw [hcalling] at hstage
    split at hstage
    · next hother =>
        rw [hother]
        exact hplaced file line left (Option.some.inj hstage)
    · cases hstage
  through hnone := by
    have hown := hnone id
    rw [hcalling, if_pos rfl] at hown
    cases hown

/-- Once the call of the sync at work is granted, only what is left is missing. -/
theorem reached (hfilling : Filling plan world) {id : Nat} {stage : SyncStage} {outcome : Outcome}
    (hgranted : world.isGranted id = true) (hstage : world.session.callingStage? id = some stage)
    (haccepts : stage.accepts outcome = true) :
    ∃ left, stage.left? outcome = some left ∧ plan = world.backend.breakpoints ++ left.rest := by
  cases stage with
  | clearing left =>
      obtain ⟨hplan, hempty⟩ := hfilling.cleared id left hstage
      refine ⟨left, ?_, ?_⟩
      · simp only [SyncStage.accepts] at haccepts
        rw [SyncStage.left?]
        cases haccepted : BackendClient.accepted .clearBreakpoints outcome with
        | ok reply => rfl
        | error fault =>
            rw [haccepted] at haccepts
            cases haccepts
      · rw [hempty hgranted]
        exact hplan
  | setting file line left =>
      have hplan := hfilling.placed id file line left hstage
      rw [if_pos hgranted, List.append_nil] at hplan
      exact ⟨left, rfl, hplan⟩
  | starting => cases haccepts
  | queued => cases haccepts
  | admitted => cases haccepts

end Filling

/-! ## Processing -/

section Process

variable {id : Nat} {made : BackendCall}

theorem process_of_waiting (hcall : world.calls id = some { made }) :
    world.process id = { world with
      backend := (world.backend.serve made).2
      calls := Function.update world.calls id
        (some { made, status := some (world.backend.serve made).1.status }) } := by
  simp only [process, hcall]

theorem process_of_idle (hidle : ∀ made, world.calls id ≠ some { made }) :
    world.process id = world := by
  unfold process
  split
  · next made hcall => exact absurd hcall (hidle made)
  · rfl

theorem calls_process_self (hcall : world.calls id = some { made }) :
    (world.process id).calls id =
      some { made, status := some (world.backend.serve made).1.status } := by
  rw [process_of_waiting hcall]
  exact Function.update_self _ _ _

theorem calls_process_of_ne {other : Nat} (hother : other ≠ id) :
    (world.process id).calls other = world.calls other := by
  unfold process
  split
  · exact Function.update_of_ne hother _ _
  · rfl

theorem isGranted_process (hcall : world.calls id = some { made }) :
    (world.process id).isGranted id = world.backend.grants made := by
  rw [isGranted, calls_process_self hcall]
  rfl

/-- The backend processes the call of the sync at work. -/
theorem Filling.process_writing {made : BackendCall} (hfilling : Filling plan world)
    (hcalls : CallsOk world) (hsyncs : Session.SyncsOk world.session) {id : Nat}
    (hcall : world.calls id = some { made }) (hwrites : made.WritesBreakpoints) :
    Filling plan (world.process id) := by
  have hbackend : (world.process id).backend = (world.backend.serve made).2 := by
    rw [process_of_waiting hcall]
  obtain ⟨stage, hstage⟩ := Option.isSome_iff_exists.mp (hcalls.writing id _ hcall hwrites)
  have hcalling : ∀ other, (world.process id).session.callingStage? other =
      if other = id then some stage else none := by
    intro other
    rw [session_process world id]
    split
    · next hother => rw [hother, hstage]
    · next hother =>
        cases hnext : world.session.callingStage? other with
        | none => rfl
        | some next =>
            exact absurd (Session.callingStage?_unique hsyncs hnext hstage) hother
  obtain ⟨_, _, hfound, hmade⟩ := hcalls.waiting id stage hstage
  rw [hcall] at hfound
  cases hfound
  refine .ofCalling hcalling (fun left hclearing => ?_) fun file line left hsetting => ?_
  · subst hclearing
    cases hmade
    refine ⟨(hfilling.cleared id left hstage).1, fun hgranted => ?_⟩
    rw [isGranted_process hcall] at hgranted
    rw [hbackend]
    exact SimulatedBackend.breakpoints_serve_clear hgranted
  · subst hsetting
    cases hmade
    have hplan := hfilling.placed id file line left hstage
    have hungranted : world.isGranted id = false := by
      rw [isGranted, hcall]
      rfl
    rw [if_neg (by simp [hungranted])] at hplan
    rw [isGranted_process hcall, hbackend]
    cases hgrants : world.backend.grants (.setBreakpoint file line) with
    | true =>
        rw [SimulatedBackend.breakpoints_serve_set hgrants, if_pos rfl, List.append_nil]
        exact hplan
    | false =>
        rw [SimulatedBackend.breakpoints_serve_of_refused hgrants, if_neg Bool.false_ne_true]
        exact hplan

/-- The backend processes a call that is not about breakpoints. -/
theorem Filling.process_keeping {made : BackendCall} (hfilling : Filling plan world)
    (hcalls : CallsOk world) {id : Nat} (hcall : world.calls id = some { made })
    (hkeeps : ¬ made.WritesBreakpoints) : Filling plan (world.process id) := by
  refine hfilling.congr (fun other => by rw [session_process world id])
    (fun other stage hstage => ?_) ?_
  · rw [isGranted, isGranted, calls_process_of_ne]
    rintro rfl
    obtain ⟨_, _, hfound, hmade⟩ := hcalls.waiting other stage hstage
    rw [hcall] at hfound
    cases hfound
    exact hkeeps (stage.writes_of_call? hmade)
  · rw [process_of_waiting hcall]
    exact SimulatedBackend.breakpoints_serve_of_keeps hkeeps

theorem Filling.process (hfilling : Filling plan world) (hcalls : CallsOk world)
    (hsyncs : Session.SyncsOk world.session) (id : Nat) : Filling plan (world.process id) := by
  by_cases hidle : ∀ made, world.calls id ≠ some { made }
  · rw [process_of_idle hidle]
    exact hfilling
  · obtain ⟨made, hcall⟩ := not_forall_not.mp hidle
    by_cases hwrites : made.WritesBreakpoints
    · exact hfilling.process_writing hcalls hsyncs hcall hwrites
    · exact hfilling.process_keeping hcalls hcall hwrites

theorem CallsOk.process (hcalls : CallsOk world) (id : Nat) : CallsOk (world.process id) := by
  by_cases hidle : ∀ made, world.calls id ≠ some { made }
  · rw [process_of_idle hidle]
    exact hcalls
  obtain ⟨made, hcall⟩ := not_forall_not.mp hidle
  constructor
  · intro other stage hstage
    rw [session_process] at hstage
    obtain ⟨expected, status, hfound, hmade⟩ := hcalls.waiting other stage hstage
    by_cases hother : other = id
    · rw [hother, hcall] at hfound
      cases hfound
      rw [hother]
      exact ⟨made, _, calls_process_self hcall, hmade⟩
    · rw [calls_process_of_ne hother]
      exact ⟨expected, status, hfound, hmade⟩
  · intro other call hfound hwrites
    rw [session_process]
    by_cases hother : other = id
    · rw [hother, calls_process_self hcall] at hfound
      cases hfound
      rw [hother]
      exact hcalls.writing id _ hcall hwrites
    · rw [calls_process_of_ne hother] at hfound
      exact hcalls.writing other call hfound hwrites

end Process

/-! ## Taking events -/

section Take

variable {now : Nat} {event : SessionEvent}

/-- A sync begins with an empty backend to come. -/
theorem Filling.of_clear {id total : Nat} (hwf : Session.WellFormed world.session)
    (hsync : (world.session.syncStage? id).isSome = true)
    (hmarks : world.session.stepMarks now event = [.clear id (some plan)])
    (hcalling : ∀ other, (world.take now event).session.callingStage? other =
      if other = id then some (.clearing { rest := plan, total }) else none) :
    Filling plan (world.take now event) := by
  refine .ofCalling hcalling (fun left hclearing => ?_) fun file line left hsetting => ?_
  · cases hclearing
    refine ⟨rfl, fun hgranted => ?_⟩
    rw [isGranted, calls_take_of_clear hwf hsync hmarks] at hgranted
    cases hgranted
  · cases hsetting

theorem accepts_of_unrefused {id : Nat} {stage : SyncStage} {outcome : Outcome}
    {marks : List SyncMark}
    (haccepted : ∀ owner, SyncMark.answered owner false ∉
      .answered id (stage.accepts outcome) :: marks) : stage.accepts outcome = true := by
  cases haccepts : stage.accepts outcome with
  | true => rfl
  | false =>
      rw [haccepts] at haccepted
      exact absurd List.mem_cons_self (haccepted id)

/-- A sync goes on as long as its calls are accepted. -/
theorem Filling.take (hfilling : Filling plan world) (hwf : Session.WellFormed world.session)
    (hinstalled : world.session.SyncsInstalled) (hpermits : world.permits event = true)
    (hclear : ∀ owner known, SyncMark.clear owner known ∉ world.session.stepMarks now event)
    (haccepted : ∀ owner, SyncMark.answered owner false ∉ world.session.stepMarks now event) :
    Filling plan (world.take now event) := by
  have hstep := Session.syncStep_step hwf hinstalled now event
  generalize hmarks : world.session.stepMarks now event = marks at hclear haccepted hstep
  generalize world.session.startsSync event (Session.step now event world.session).1 = starts
    at hstep
  cases hstep with
  | quiet hcount hnew hevent hcalling hpending =>
      refine hfilling.congr hcalling (fun id stage hstage => ?_) rfl
      rw [isGranted, isGranted, calls_take_of_quiet hwf (isSome_syncStage?_of_calling hstage) hmarks
        (isOutcomeOf_eq_false hevent hstage)]
  | @began id begun hstarts hevent hknown hwaiting hidle hcalling hpending =>
      exact absurd List.mem_cons_self (hclear id (some begun))
  | @called id stage outcome file line rest total hstarts hevent hstage hleft hcalling hpending =>
      have haccepts := accepts_of_unrefused haccepted
      rw [hevent] at hpermits
      obtain ⟨left, hfound, hplan⟩ := hfilling.reached (isGranted_of_accepts hpermits haccepts)
        hstage haccepts
      rw [hleft] at hfound
      cases hfound
      refine .ofCalling hcalling (fun left hclearing => ?_) fun place number left hsetting => ?_
      · cases hclearing
      · cases hsetting
        have hungranted : (world.take now event).isGranted id = false := by
          rw [isGranted, calls_take_of_set hwf (isSome_syncStage?_of_calling hstage) hmarks]
          rfl
        rw [if_neg (by simp [hungranted]), List.append_assoc]
        exact hplan
  | @ended id stage outcome hstarts hevent hstage hleft hcalling hpending =>
      have haccepts := accepts_of_unrefused haccepted
      rw [hevent] at hpermits
      obtain ⟨left, hfound, hplan⟩ := hfilling.reached (isGranted_of_accepts hpermits haccepts)
        hstage haccepts
      rw [hleft left hfound, List.append_nil] at hplan
      constructor
      · intro other plan hnext
        cases (hcalling other).symm.trans hnext
      · intro other file line plan hnext
        cases (hcalling other).symm.trans hnext
      · intro _
        exact hplan.symm

end Take

end World

end DebugBridge
