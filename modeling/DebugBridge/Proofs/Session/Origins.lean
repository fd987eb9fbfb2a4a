import DebugBridge.Proofs.Session.Duties
import DebugBridge.Proofs.Session.Standing

/-!
# Where activities come from

Every activity of a run goes back to the event that started it, and every attach to the one launch
that was accepted.
-/

namespace DebugBridge.Session

section Origins

variable {session : Session} {events : List (Nat × SessionEvent)}

/-- The last step of a run. -/
theorem run_snoc (events : List (Nat × SessionEvent)) (now : Nat) (event : SessionEvent)
    (session : Session) :
    run (events ++ [(now, event)]) session =
      ((step now event (run events session).1).1,
        (run events session).2 ++ (step now event (run events session).1).2) := by
  rw [run_append]
  simp only [Turn.andThen, run, Turn.idle, List.append_nil]

end Origins

/-! ## The launch -/

section Launch

variable {session : Session} {event : SessionEvent}

/-- A launch is an errand only of the session that was not launched. -/
theorem launch_of_errand {request : Request} {arguments : LaunchArguments} {serverPath : String}
    (herrand : session.errand? request = some (.launch arguments serverPath)) :
    request.command = "launch" ∧ session.launched = none ∧
      decodeArguments Arguments.launchDecoder {} request = .ok arguments ∧
      arguments.usableServerPath = some serverPath := by
  unfold errand? errandFor at herrand
  have hresume : ∀ mode, session.resumeErrand? mode request ≠
      some (.launch arguments serverPath) := by
    intro mode hsome
    obtain ⟨thread, -, hmap⟩ := Option.bind_eq_some_iff.mp hsome
    obtain ⟨context, -, hsame⟩ := Option.map_eq_some_iff.mp hmap
    cases hsame
  split at herrand
  · next hcommand =>
      refine ⟨hcommand, ?_⟩
      unfold launchErrand? at herrand
      split at herrand
      · next found hdecoded =>
          split at herrand
          · cases herrand
          · next hlaunched =>
              obtain ⟨path, hpath, hsame⟩ := Option.map_eq_some_iff.mp herrand
              cases hsame
              exact ⟨Option.not_isSome_iff_eq_none.mp hlaunched, hdecoded, hpath⟩
      · cases herrand
  · obtain ⟨resource, -, hsame⟩ := Option.map_eq_some_iff.mp herrand
    cases hsame
  · exact absurd herrand (hresume _)
  · exact absurd herrand (hresume _)
  · exact absurd herrand (hresume _)
  · unfold evaluateErrand? at herrand
    split at herrand
    · obtain ⟨expression, -, hsame⟩ := Option.map_eq_some_iff.mp herrand
      cases hsame
    · cases herrand
  · cases herrand

/-- An attach is started by a launch alone. -/
theorem launch_of_newcomer {thread : Int} {newcomer : Activity}
    (hnew : newcomer ∈ session.newcomers event) (hduty : newcomer.duty = .attach thread) :
    ∃ request arguments serverPath, event = .request request ∧
      session.errand? request = some (.launch arguments serverPath) ∧
      newcomer = .attach thread .starting ∧ session.isShutDown = false := by
  cases event with
  | request request =>
      simp only [newcomers] at hnew
      split at hnew
      · next errand herrand =>
          cases errand with
          | launch arguments serverPath =>
              simp only [bearers] at hnew
              split at hnew
              · cases hnew
              · next hopen =>
                  obtain ⟨context, -, rfl⟩ := List.mem_map.mp hnew
                  cases hduty
                  exact ⟨request, arguments, serverPath, rfl, herrand, rfl,
                    Bool.eq_false_iff.mpr hopen⟩
          | resume other suffix mode =>
              rw [List.mem_singleton.mp hnew] at hduty
              cases hduty
          | restart resource =>
              rw [List.mem_singleton.mp hnew] at hduty
              cases hduty
          | evaluate expression =>
              rw [List.mem_singleton.mp hnew] at hduty
              cases hduty
      · rw [List.mem_singleton.mp (List.mem_ite_nil_right.mp hnew).2] at hduty
        cases hduty
  | outcome id outcome =>
      obtain rfl | rfl := eq_of_mem_attachPrelude (List.mem_ite_nil_right.mp hnew).2 <;> cases hduty
  | shutdown => cases hnew
  | release => cases hnew
  | wake id => cases hnew

/-- What attaches has not been attached to before. -/
theorem completesAttach_of_attachment {attachment : Attachment}
    (hattachment : session.attachment? event = some attachment) :
    session.completesAttach event = false := by
  cases event with
  | outcome id outcome =>
      simp only [attachment?] at hattachment
      split at hattachment
      · next hactivity _ => simp [completesAttach, hactivity]
      · cases hattachment
  | request request => rfl
  | shutdown => rfl
  | release => rfl
  | wake id => rfl

/-- An accepted launch is remembered. -/
theorem launched_step_of_errand {request : Request} {arguments : LaunchArguments}
    {serverPath : String} (herrand : session.errand? request = some (.launch arguments serverPath))
    (now : Nat) :
    (step now (.request request) session).1.launched =
      some { serverPath, entryMode := arguments.entryMode, pending := request } := by
  have hstanding := congrArg Standing.launched (standing_step session now (.request request))
  simp only [standingAfter, herrand] at hstanding
  exact hstanding

/-- A step launches, answers the launch, or leaves it alone. -/
theorem launched_step_cases (session : Session) (now : Nat) (event : SessionEvent) :
    (∃ request arguments serverPath, event = .request request ∧
        session.errand? request = some (.launch arguments serverPath) ∧
        (step now event session).1.launched =
          some { serverPath, entryMode := arguments.entryMode, pending := request }) ∨
      session.completesAttach event = true ∧
        (step now event session).1.launched = session.launched.map (fun launched =>
          { launched with pending := none }) ∨
      session.completesAttach event = false ∧
        (step now event session).1.launched = session.launched := by
  have hstanding : (step now event session).1.launched = (session.standingAfter event).launched :=
    congrArg Standing.launched (standing_step session now event)
  rw [hstanding]
  have hrest : session.completesAttach event = true ∧ (session.attachedOn event).launched =
        session.launched.map (fun launched => { launched with pending := none }) ∨
      session.completesAttach event = false ∧
        (session.attachedOn event).launched = session.launched := by
    unfold attachedOn
    split
    · next hattachment =>
        refine .inr ⟨completesAttach_of_attachment hattachment, ?_⟩
        simp only [Standing.attach, Standing.install]
        split <;> rfl
    · cases hcompletes : session.completesAttach event with
      | true => exact .inl ⟨rfl, rfl⟩
      | false => exact .inr ⟨rfl, rfl⟩
  cases event with
  | request request =>
      cases herrand : session.errand? request with
      | none =>
          obtain ⟨shownThread, handles, hsame⟩ := inspected_eq request.command session request
          simp only [standingAfter, herrand, hsame]
          exact .inr (.inr ⟨rfl, rfl⟩)
      | some errand =>
          simp only [standingAfter, herrand]
          cases errand with
          | launch arguments serverPath =>
              exact .inl ⟨request, arguments, serverPath, rfl, herrand, rfl⟩
          | resume thread suffix mode => exact .inr (.inr ⟨rfl, rfl⟩)
          | restart resource => exact .inr (.inr ⟨rfl, rfl⟩)
          | evaluate expression => exact .inr (.inr ⟨rfl, rfl⟩)
  | shutdown => exact .inr hrest
  | release => exact .inr hrest
  | wake id => exact .inr hrest
  | outcome id outcome => exact .inr hrest

/-- Once there was a launch, a step answers it or leaves it alone. -/
theorem launched_step_of_launched {launched : Launch} (hlaunched : session.launched = some launched)
    (now : Nat) (event : SessionEvent) :
    (step now event session).1.launched =
      some (if session.completesAttach event then { launched with pending := none }
        else launched) := by
  rcases launched_step_cases session now event with
    ⟨request, arguments, serverPath, -, herrand, -⟩ | ⟨hcompletes, hafter⟩ | ⟨hcompletes, hafter⟩
  · have hnone := (launch_of_errand herrand).2.1
    rw [hlaunched] at hnone
    cases hnone
  · rw [hafter, hlaunched, hcompletes]
    rfl
  · rw [hafter, hlaunched, hcompletes]
    rfl

/-- What is there to attach after a step was there before, or the step launches. -/
theorem attach_of_step (hwf : WellFormed session) {now id : Nat} {after : Activity}
    {thread : Int} (hafter : (step now event session).1.activity? id = some after)
    (hduty : after.duty = .attach thread) :
    (∃ before, session.activity? id = some before ∧ before.duty = .attach thread) ∨
      session.nextActivity ≤ id ∧ session.launched = none ∧
        (step now event session).1.launched ≠ none ∧
        session.contexts.threads[id - session.nextActivity]? = some thread := by
  by_cases hbelow : id < session.nextActivity
  · obtain ⟨before, hbefore, hsame⟩ := duty_of_step hwf hbelow hafter
    exact .inl ⟨before, hbefore, hsame.trans hduty⟩
  · right
    have hid := Nat.le_of_not_lt hbelow
    have hnew := newcomer_of_step hwf hid hafter
    obtain ⟨request, arguments, serverPath, rfl, herrand, -, hopen⟩ :=
      launch_of_newcomer (List.mem_of_getElem? hnew) hduty
    refine ⟨hid, (launch_of_errand herrand).2.1, by simp [launched_step_of_errand herrand], ?_⟩
    simp only [newcomers, herrand, bearers, hopen, Bool.false_eq_true, if_false,
      List.getElem?_map, Option.map_eq_some_iff] at hnew
    obtain ⟨context, hcontext, rfl⟩ := hnew
    cases hduty
    rw [Contexts.threads, List.getElem?_map, hcontext]
    rfl

end Launch

/-- A launch that a run accepts. -/
structure AcceptedLaunch (config : BackendConfig) (events : List (Nat × SessionEvent)) where
  earlier : List (Nat × SessionEvent)
  now : Nat
  request : Request
  later : List (Nat × SessionEvent)
  arguments : LaunchArguments
  serverPath : String
  split : events = earlier ++ (now, .request request) :: later
  accepted : (run earlier (ofConfig config)).1.errand? request =
    some (.launch arguments serverPath)

namespace AcceptedLaunch

variable {config : BackendConfig} {events : List (Nat × SessionEvent)}

/-- The numbers of the activities that the launch starts begin here. -/
def first (launch : AcceptedLaunch config events) : Nat :=
  (run launch.earlier (ofConfig config)).1.nextActivity

/-- They end before this one. -/
def last (launch : AcceptedLaunch config events) : Nat :=
  (step launch.now (.request launch.request)
    (run launch.earlier (ofConfig config)).1).1.nextActivity

/-- The run may go on. -/
def snoc (launch : AcceptedLaunch config events) (entry : Nat × SessionEvent) :
    AcceptedLaunch config (events ++ [entry]) where
  earlier := launch.earlier
  now := launch.now
  request := launch.request
  later := launch.later ++ [entry]
  arguments := launch.arguments
  serverPath := launch.serverPath
  split := by
    conv => lhs; rw [launch.split]
    rw [List.append_assoc]
    rfl
  accepted := launch.accepted

end AcceptedLaunch

/-- What the session remembers of its launch, and which activities the launch started. -/
structure Launched {config : BackendConfig} {events : List (Nat × SessionEvent)}
    (launch : AcceptedLaunch config events) (launched : Launch) (session : Session) : Prop where
  found : session.launched = some launched
  serverPath : launched.serverPath = launch.serverPath
  entryMode : launched.entryMode = launch.arguments.entryMode
  pending : launched.pending = none ∨ launched.pending = some launch.request
  attaches : ∀ id activity thread, session.activity? id = some activity →
    activity.duty = .attach thread → launch.first ≤ id ∧ id < launch.last

/-- A launch stays the only one of the run. -/
theorem Launched.step {config : BackendConfig} {events : List (Nat × SessionEvent)}
    {launch : AcceptedLaunch config events} {launched : Launch} {session : Session}
    (hlaunched : Launched launch launched session) (hwf : WellFormed session) (now : Nat)
    (event : SessionEvent) :
    Launched (launch.snoc (now, event))
      (if session.completesAttach event then { launched with pending := none } else launched)
      (step now event session).1 where
  found := launched_step_of_launched hlaunched.found now event
  serverPath := by
    split
    · exact hlaunched.serverPath
    · exact hlaunched.serverPath
  entryMode := by
    split
    · exact hlaunched.entryMode
    · exact hlaunched.entryMode
  pending := by
    split
    · exact .inl rfl
    · exact hlaunched.pending
  attaches id activity thread hactivity hduty := by
    rcases attach_of_step hwf hactivity hduty with ⟨before, hbefore, hsame⟩ | ⟨-, hnone, -, -⟩
    · exact hlaunched.attaches id before thread hbefore hsame
    · rw [hlaunched.found] at hnone
      cases hnone

/-- Without a launch nothing attaches; with one, it is the only one of the run. -/
theorem launched_run (config : BackendConfig) (events : List (Nat × SessionEvent)) :
    ((run events (ofConfig config)).1.launched = none ∧
      ∀ id activity thread, (run events (ofConfig config)).1.activity? id = some activity →
        activity.duty ≠ .attach thread) ∨
      ∃ (launch : AcceptedLaunch config events) (launched : Launch),
        Launched launch launched (run events (ofConfig config)).1 := by
  induction events using List.reverseRecOn with
  | nil => exact .inl ⟨rfl, by simp [run, activity?, ofConfig]⟩
  | append_singleton events entry ih =>
      obtain ⟨now, event⟩ := entry
      have hwf := wellFormed_run (WellFormed.ofConfig config) events
      have hlast : (run (events ++ [(now, event)]) (ofConfig config)).1 =
          (step now event (run events (ofConfig config)).1).1 := by
        rw [run_snoc]
      rw [hlast]
      rcases ih with ⟨hnone, hfree⟩ | ⟨launch, launched, hlaunched⟩
      · rcases launched_step_cases (run events (ofConfig config)).1 now event with
          ⟨request, arguments, serverPath, rfl, herrand, hafter⟩ | ⟨-, hafter⟩ | ⟨-, hafter⟩
        · right
          refine ⟨⟨events, now, request, [], arguments, serverPath, rfl, herrand⟩,
            { serverPath, entryMode := arguments.entryMode, pending := request },
            hafter, rfl, rfl, .inr rfl, ?_⟩
          intro id activity thread hactivity hduty
          rcases attach_of_step hwf hactivity hduty with ⟨before, hbefore, hold⟩ | ⟨hid, -⟩
          · exact absurd hold (hfree id before thread hbefore)
          · have htable := (wellFormed_step hwf now (.request request)).table
            exact ⟨hid, htable.lt_of_activity? hactivity⟩
        all_goals
          left
          rw [hnone] at hafter
          refine ⟨hafter, fun id activity thread hactivity hduty => ?_⟩
          rcases attach_of_step hwf hactivity hduty with ⟨before, hbefore, hold⟩ | ⟨-, -, hsome, -⟩
          · exact hfree id before thread hbefore hold
          · exact hsome hafter
      · exact .inr ⟨launch.snoc (now, event), _, hlaunched.step hwf now event⟩

end DebugBridge.Session
