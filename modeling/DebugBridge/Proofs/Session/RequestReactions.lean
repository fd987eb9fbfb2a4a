import DebugBridge.Proofs.Results
import DebugBridge.Proofs.Session.Reaction

/-!
# Reactions to requests

Each handler that accepts a request makes one of the reactions; a refused request is answered and
changes nothing else.
-/

namespace DebugBridge.Session

section Handlers

variable {request : Request} {session : Session} {out : Session × List Effect}

theorem reaction_handshake (hcommand : request.command = "initialize")
    (hout : handshake request session = .ok out) : Reaction session (.request request) out := by
  obtain ⟨arguments, -, hout⟩ := bind_eq_ok.mp hout
  cases hout
  have hchange : Silent { session with linesStartAt1 := arguments.linesStartAt1.getD true }
      ({ session with
        linesStartAt1 := arguments.linesStartAt1.getD true
        columnsStartAt1 := arguments.columnsStartAt1.getD true }, []) :=
    ⟨rfl, rfl, rfl, rfl, by simp⟩
  exact .recounted hcommand (hchange.rebase (silent_respond request _ _))

/-- A context is attached to at most where there is one. -/
theorem reaction_spawnAttaches {first : Turn}
    (hplain : Plain session (.request request))
    (hfirst : Silent session (first session)) :
    Reaction session (.request request) (first.andThen spawnAttaches session) := by
  by_cases hshut : (first session).1.isShutDown = true
  · have hnone : spawnAttaches (first session).1 = ((first session).1, []) := by
      rw [spawnAttaches, if_pos hshut]
    refine .answered hplain (hfirst.andThen ?_)
    rw [hnone]
    exact Silent.refl _
  · have hall := spawns_all ((first session).1.contexts.contexts.map fun context =>
      .attach context.thread .starting) (first session).1
    rw [List.map_map] at hall
    have hturn : spawnAttaches (first session).1 =
        Turn.all ((first session).1.contexts.contexts.map fun context =>
          spawn (.attach context.thread .starting)) (first session).1 := by
      rw [spawnAttaches, if_neg hshut]
    refine .started hplain ?_ (Spawns.silent_andThen hfirst (hturn ▸ hall))
    intro activity hactivity
    obtain ⟨context, hcontext, rfl⟩ := List.mem_map.mp hactivity
    have hcontexts : (first session).1.contexts.contexts = session.contexts.contexts :=
      congrArg Backdrop.contexts hfirst.backdrop
    rw [hcontexts] at hcontext
    exact .inr ⟨context.thread, List.mem_map_of_mem hcontext, rfl⟩

theorem reaction_launch (hplain : Plain session (.request request))
    (hout : launch request session = .ok out) : Reaction session (.request request) out := by
  obtain ⟨arguments, -, hout⟩ := bind_eq_ok.mp hout
  obtain ⟨serverPath, -, hout⟩ := bind_eq_ok.mp hout
  by_cases hlaunched : session.launched.isSome = true
  · simp only [hlaunched, if_true] at hout
    cases hout
  · simp only [hlaunched, Bool.false_eq_true, if_false] at hout
    cases hout
    rw [Turn.all_cons, Turn.all_cons, Turn.all_cons, Turn.all_cons, Turn.all_nil,
      Turn.andThen_idle, ← Turn.andThen_assoc, ← Turn.andThen_assoc]
    refine reaction_spawnAttaches hplain (Silent.andThen (Silent.andThen ?_ ?_) ?_)
    · exact ⟨rfl, rfl, rfl, rfl, by simp⟩
    · exact ⟨rfl, rfl, rfl, rfl, by simp [setTracing]⟩
    · exact silent_log _ _ _ _

/-! ## Requests for the store -/

theorem reaction_configurationDone (hplain : Plain session (.request request))
    (hout : configurationDone request session = .ok out) :
    Reaction session (.request request) out := by
  cases hout
  exact .answered hplain (silent_respond request _ _)

theorem reaction_setBreakpoints (hcommand : request.command = "setBreakpoints")
    (hout : setBreakpoints request session = .ok out) :
    Reaction session (.request request) out := by
  have haccepted : session.setsBreakpoints (.request request) = true := by
    simp [setsBreakpoints, hcommand, hout, Except.isOk, Except.toBool]
  obtain ⟨arguments, -, hout⟩ := bind_eq_ok.mp hout
  obtain ⟨path, -, hout⟩ := bind_eq_ok.mp hout
  have hspawns : Spawns (if session.paths.isSome then [.sync .starting] else [])
      { session with
        breakpoints := (session.breakpoints.replace path arguments.requestedLines).2 } out := by
    cases hout
    rw [Turn.all_cons, Turn.change_andThen, Turn.all_cons, Turn.all_cons, Turn.all_nil,
      Turn.andThen_idle]
    apply Spawns.silent_andThen (silent_respond request _ _)
    by_cases hpaths : session.paths.isSome = true
    · rw [if_pos hpaths, if_pos hpaths]
      exact spawns_spawn _ _
    · rw [if_neg hpaths, if_neg hpaths]
      exact Spawns.of_silent (silent_log _ _ _ _)
  exact .breakpointsSet hcommand haccepted hspawns

theorem reaction_threads (hplain : Plain session (.request request))
    (hout : Session.threads request session = .ok out) :
    Reaction session (.request request) out := by
  cases hout
  exact .answered hplain (silent_respond request _ _)

theorem reaction_stackTrace (hplain : Plain session (.request request))
    (hout : stackTrace request session = .ok out) : Reaction session (.request request) out := by
  obtain ⟨arguments, -, hout⟩ := bind_eq_ok.mp hout
  obtain ⟨thread, -, hout⟩ := bind_eq_ok.mp hout
  split at hout
  · cases hout
  · cases hout
    have hchange : Silent session
        ({ session with contexts := session.contexts.showThread thread }, []) :=
      ⟨rfl, rfl, rfl, rfl, by simp⟩
    exact .answered hplain
      (hchange.rebase (silent_respond request _ _))

theorem reaction_scopes (hplain : Plain session (.request request))
    (hout : Session.scopes request session = .ok out) :
    Reaction session (.request request) out := by
  obtain ⟨arguments, -, hout⟩ := bind_eq_ok.mp hout
  cases hout
  have hchange : Silent session ({ session with
      handles := (allocateScopes (arguments.frame.getD frameId) Scope.all session.handles).2 },
        []) := ⟨rfl, rfl, rfl, rfl, by simp⟩
  exact .answered hplain
    (hchange.rebase (silent_respond request _ _))

theorem reaction_listVariables (hplain : Plain session (.request request))
    (hout : listVariables request session = .ok out) :
    Reaction session (.request request) out := by
  obtain ⟨arguments, -, hout⟩ := bind_eq_ok.mp hout
  obtain ⟨reference, -, hout⟩ := bind_eq_ok.mp hout
  split at hout
  · cases hout
  · cases hout
    exact .answered hplain (silent_respond request _ _)

/-! ## Requests for the backend -/

/-- A request to go on is accepted exactly where it names the thread of a context. -/
theorem resume_eq (mode : ResumeMode) (request : Request) (session : Session) :
    (∃ thread context, session.resumedThread? request = some thread ∧
      session.contexts.get? thread = some context ∧
      resume mode request session = .ok (Turn.all [
        .change fun base => { base with contexts := (session.contexts.startCommand thread).2 },
        log .debug "setting resume mode"
          [("thread_id", .int thread), ("mode", .shown mode.name)],
        spawn (.resume request thread context.suffix mode .starting)] session)) ∨
    session.resumedThread? request = none ∧
      ∃ fault, resume mode request session = .error fault := by
  unfold resume resumedThread?
  cases hdecoded : decodeArguments Arguments.threadDecoder {} request with
  | error fault => exact .inr ⟨rfl, fault, rfl⟩
  | ok arguments =>
      obtain ⟨named⟩ := arguments
      cases named with
      | none => exact .inr ⟨rfl, _, rfl⟩
      | some thread =>
          cases hget : session.contexts.get? thread with
          | none =>
              obtain ⟨contexts, hstart⟩ :
                  ∃ contexts, session.contexts.startCommand thread = (none, contexts) :=
                ⟨_, by rw [Contexts.startCommand, hget, Option.map_none]⟩
              refine .inr ⟨by simp [Option.filter, hget], .unknownThread thread, ?_⟩
              simp only [bind, Except.bind, requireArgument, hstart]
          | some context =>
              obtain ⟨contexts, hstart⟩ :
                  ∃ contexts, session.contexts.startCommand thread =
                    (some context.suffix, contexts) :=
                ⟨_, by rw [Contexts.startCommand, hget, Option.map_some]⟩
              refine .inl ⟨thread, context, by simp [Option.filter, hget], hget, ?_⟩
              simp only [bind, Except.bind, requireArgument, hstart]
              rfl

theorem reaction_resume {mode : ResumeMode} (hcommand : request.command ∈ resumeCommands)
    (hout : resume mode request session = .ok out) : Reaction session (.request request) out := by
  rcases resume_eq mode request session with ⟨thread, context, hthread, hget, haccepted⟩ |
      ⟨-, fault, hrefused⟩
  · rw [haccepted] at hout
    have hspawns : Spawns [.resume request thread context.suffix mode .starting]
        { session with contexts := (session.contexts.startCommand thread).2 } out := by
      cases hout
      rw [Turn.all_cons, Turn.change_andThen, Turn.all_cons, Turn.all_cons, Turn.all_nil,
        Turn.andThen_idle]
      exact Spawns.silent_andThen (silent_log _ _ _ _) (spawns_spawn _ _)
    refine .commandStarted ?_ ?_ hget hspawns
    · have hother : request.command ≠ "setBreakpoints" := by
        intro hsame
        rw [hsame] at hcommand
        simp [resumeCommands] at hcommand
      simp [setsBreakpoints, hother]
    · simp only [begunCommand?, hcommand, if_true, hthread, Option.map_some]
  · rw [hrefused] at hout
    cases hout

theorem reaction_evaluate (hplain : Plain session (.request request))
    (hout : evaluate request session = .ok out) : Reaction session (.request request) out := by
  obtain ⟨arguments, -, hout⟩ := bind_eq_ok.mp hout
  obtain ⟨expression, -, hout⟩ := bind_eq_ok.mp hout
  cases hout
  exact .started hplain (by simp [Activity.role])
    (spawns_spawn _ _)

theorem reaction_restart (hplain : Plain session (.request request))
    (hout : restart request session = .ok out) : Reaction session (.request request) out := by
  unfold restart at hout
  split at hout
  · cases hout
  · cases hout
    exact .started hplain (by simp [Activity.role])
      (spawns_spawn _ _)

theorem reaction_terminate (hplain : Plain session (.request request))
    (hout : terminate request session = .ok out) : Reaction session (.request request) out := by
  have hrest : Silent (shutdown session).1
      ((respond request none).andThen (emit "terminated" none) (shutdown session).1) :=
    (silent_respond request none _).andThen (silent_emit (by simp) none _)
  have hturn : out = shutdown.andThen
      ((respond request none).andThen (emit "terminated" none)) session := by
    cases hout
    rw [Turn.all_cons, Turn.all_cons, Turn.all_cons, Turn.all_nil, Turn.andThen_idle]
  rw [hturn]
  exact .shutDown (by simp [SessionEvent.IsFor]) hplain hrest

theorem reaction_acknowledge (hplain : Plain session (.request request))
    (hout : acknowledge request session = .ok out) :
    Reaction session (.request request) out := by
  cases hout
  exact .answered hplain
    (silent_send (fun seq => Message.stoppedThread?_response seq _) session)

/-! ## Any request -/

theorem silent_refuse (request : Request) (fault : RequestFault) (session : Session) :
    Silent session (refuse request fault session) :=
  (silent_log _ _ _ session).andThen (silent_respondFailure request fault.message _)

/-- The command decides on the handler. -/
theorem reaction_handler {command : String} (hcommand : request.command = command)
    (hout : handler command request session = .ok out) :
    Reaction session (.request request) out := by
  have hplain : command ≠ "setBreakpoints" → command ∉ resumeCommands →
      Plain session (.request request) := by
    intro hsets hresumes
    exact plain_of_command (hcommand ▸ hsets) (hcommand ▸ hresumes)
  unfold handler at hout
  split at hout
  · exact reaction_handshake hcommand hout
  · exact reaction_launch (hplain (by simp) (by simp [resumeCommands])) hout
  · exact reaction_configurationDone (hplain (by simp) (by simp [resumeCommands])) hout
  · exact reaction_restart (hplain (by simp) (by simp [resumeCommands])) hout
  · exact reaction_setBreakpoints hcommand hout
  · exact reaction_threads (hplain (by simp) (by simp [resumeCommands])) hout
  · exact reaction_stackTrace (hplain (by simp) (by simp [resumeCommands])) hout
  · exact reaction_scopes (hplain (by simp) (by simp [resumeCommands])) hout
  · exact reaction_listVariables (hplain (by simp) (by simp [resumeCommands])) hout
  · exact reaction_resume (by simp [hcommand, resumeCommands]) hout
  · exact reaction_resume (by simp [hcommand, resumeCommands]) hout
  · exact reaction_resume (by simp [hcommand, resumeCommands]) hout
  · exact reaction_evaluate (hplain (by simp) (by simp [resumeCommands])) hout
  · exact reaction_terminate (hplain (by simp) (by simp [resumeCommands])) hout
  · exact reaction_terminate (hplain (by simp) (by simp [resumeCommands])) hout
  · refine reaction_acknowledge (hplain ?_ ?_) hout
    · assumption
    · simp only [resumeCommands, List.mem_cons, List.not_mem_nil, or_false, not_or]
      exact ⟨by assumption, by assumption, by assumption⟩

/-- A refused request neither sets breakpoints nor begins a command. -/
theorem plain_of_refused {fault : RequestFault}
    (hrefused : handler request.command request session = .error fault) :
    Plain session (.request request) := by
  refine ⟨?_, ?_, rfl⟩
  · by_cases hcommand : request.command = "setBreakpoints"
    · rw [hcommand] at hrefused
      have hfault : setBreakpoints request session = .error fault := hrefused
      simp [setsBreakpoints, hfault, Except.isOk, Except.toBool]
    · simp [setsBreakpoints, hcommand]
  · by_cases hcommand : request.command ∈ resumeCommands
    · have hresume : ∃ mode, resume mode request session = .error fault := by
        simp only [resumeCommands, List.mem_cons, List.not_mem_nil, or_false] at hcommand
        rcases hcommand with hcommand | hcommand | hcommand
        · exact ⟨.resume, by rw [hcommand] at hrefused; exact hrefused⟩
        · exact ⟨.stepOver, by rw [hcommand] at hrefused; exact hrefused⟩
        · exact ⟨.stepInto, by rw [hcommand] at hrefused; exact hrefused⟩
      obtain ⟨mode, hfault⟩ := hresume
      rcases resume_eq mode request session with ⟨thread, context, -, -, haccepted⟩ | ⟨hnone, -⟩
      · rw [haccepted] at hfault
        cases hfault
      · simp [begunCommand?, hcommand, hnone]
    · simp [begunCommand?, hcommand]

theorem reaction_handle (request : Request) (session : Session) :
    Reaction session (.request request) (handle request session) := by
  unfold handle
  cases hout : handler request.command request session with
  | ok out => exact reaction_handler rfl hout
  | error fault => exact .answered (plain_of_refused hout) (silent_refuse request fault session)

end Handlers

end DebugBridge.Session
