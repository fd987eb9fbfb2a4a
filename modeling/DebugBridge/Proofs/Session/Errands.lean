import DebugBridge.Proofs.Session.Conduct
import DebugBridge.Proofs.Session.ActivityReactions

/-!
# Errands

An accepted request to launch, to go on, to restart or to evaluate is an errand: it is not answered
at once but when the backend has done its part.  Every other request, and every refused one, is
answered by the turn that handles it.
-/

namespace DebugBridge

/-- What an accepted request wants of the backend. -/
inductive Errand
  | launch (arguments : LaunchArguments) (serverPath : String)
  | resume (thread : Int) (suffix : String) (mode : ResumeMode)
  | restart (resource : String)
  | evaluate (expression : String)

/-- How a launch lets the contexts go on that it attaches to. -/
def LaunchArguments.entryMode (arguments : LaunchArguments) : ResumeMode :=
  if arguments.stopOnEntry then .stepInto else .resume

namespace Session

/-- A launch with a server directory, the first one of the session. -/
def launchErrand? (session : Session) (request : Request) : Option Errand :=
  match decodeArguments Arguments.launchDecoder {} request with
  | .ok arguments =>
    if session.launched.isSome then none
    else arguments.usableServerPath.map (.launch arguments)
  | .error _ => none

/-- A request that names the thread of a context. -/
def resumeErrand? (mode : ResumeMode) (session : Session) (request : Request) : Option Errand :=
  (session.resumedThread? request).bind fun thread =>
    (session.contexts.get? thread).map fun context => .resume thread context.suffix mode

/-- A request with an expression. -/
def evaluateErrand? (request : Request) : Option Errand :=
  match decodeArguments Arguments.evaluateDecoder {} request with
  | .ok arguments => arguments.expression.map .evaluate
  | .error _ => none

/-- The errand of a request with this command, if it is accepted and has one. -/
def errandFor (command : String) (session : Session) (request : Request) : Option Errand :=
  match command with
  | "launch" => session.launchErrand? request
  | "restart" => session.resourceName.map .restart
  | "continue" => session.resumeErrand? .resume request
  | "next" => session.resumeErrand? .stepOver request
  | "stepIn" => session.resumeErrand? .stepInto request
  | "evaluate" => evaluateErrand? request
  | _ => none

def errand? (session : Session) (request : Request) : Option Errand :=
  session.errandFor request.command request

/-- The request is not refused. -/
def accepts (session : Session) (request : Request) : Bool :=
  (handler request.command request session).isOk

/-- Requests that end the debugging. -/
def endCommands : List String := ["disconnect", "terminate"]

section Handlers

variable {request : Request} {session : Session} {out : Session × List Effect}

/-! ## Errands and their turns -/

/-- A launch is accepted exactly where it is an errand. -/
theorem launch_eq (request : Request) (session : Session) :
    (∃ arguments serverPath, session.launched = none ∧
      decodeArguments Arguments.launchDecoder {} request = .ok arguments ∧
      session.launchErrand? request = some (.launch arguments serverPath) ∧
      launch request session = .ok (Turn.all [
        .change fun base => { base with
          launched := some { serverPath, entryMode := arguments.entryMode, pending := request } },
        setTracing arguments.trace,
        log .info "waiting for the backend to report the debugged resource"
          [("server_path", .shown serverPath), ("stop_on_entry", .bool arguments.stopOnEntry)],
        spawnAttaches] session)) ∨
    session.launchErrand? request = none ∧ ∃ fault, launch request session = .error fault := by
  unfold launch launchErrand?
  cases hdecoded : decodeArguments Arguments.launchDecoder {} request with
  | error fault => exact .inr ⟨rfl, fault, rfl⟩
  | ok arguments =>
      cases hpath : arguments.usableServerPath with
      | none =>
          refine .inr ⟨by simp [hpath],
            .invalidArguments request.command ("serverpath" ++ " is required"), ?_⟩
          simp only [bind, Except.bind, hpath, requireArgument]
      | some serverPath =>
          cases hlaunched : session.launched with
          | some launched =>
              refine .inr ⟨rfl, .alreadyLaunched, ?_⟩
              simp only [bind, Except.bind, hpath, requireArgument]
              rfl
          | none =>
              refine .inl ⟨arguments, serverPath, rfl, rfl, by simp [hpath], ?_⟩
              simp only [bind, Except.bind, hpath, requireArgument]
              rfl

theorem restart_eq (request : Request) (session : Session) :
    (∃ resource, session.resourceName = some resource ∧
      restart request session = .ok (spawn (.restart request resource .starting) session)) ∨
    session.resourceName = none ∧ ∃ fault, restart request session = .error fault := by
  unfold restart
  cases session.resourceName with
  | none => exact .inr ⟨rfl, .notAttached, rfl⟩
  | some resource => exact .inl ⟨resource, rfl, rfl⟩

theorem evaluate_eq (request : Request) (session : Session) :
    (∃ expression, evaluateErrand? request = some (.evaluate expression) ∧
      evaluate request session =
        .ok (spawn (.evaluate request expression .starting) session)) ∨
    evaluateErrand? request = none ∧ ∃ fault, evaluate request session = .error fault := by
  unfold evaluate evaluateErrand?
  cases decodeArguments Arguments.evaluateDecoder {} request with
  | error fault => exact .inr ⟨rfl, fault, rfl⟩
  | ok arguments =>
      obtain ⟨named⟩ := arguments
      cases named with
      | none => exact .inr ⟨rfl, _, rfl⟩
      | some expression => exact .inl ⟨expression, rfl, rfl⟩

/-! ## Requests that are answered at once -/

theorem noticesIn_handshake (hout : handshake request session = .ok out) :
    noticesIn out.2 = [.reply (request.reply true)] := by
  obtain ⟨arguments, -, hout⟩ := bind_eq_ok.mp hout
  cases hout
  simp

theorem noticesIn_setBreakpoints (hout : setBreakpoints request session = .ok out) :
    noticesIn out.2 = [.reply (request.reply true)] := by
  obtain ⟨arguments, -, hout⟩ := bind_eq_ok.mp hout
  obtain ⟨path, -, hout⟩ := bind_eq_ok.mp hout
  cases hout
  by_cases hpaths : session.paths.isSome = true
  · simp [hpaths]
  · simp [hpaths]

theorem noticesIn_stackTrace (hout : stackTrace request session = .ok out) :
    noticesIn out.2 = [.reply (request.reply true)] := by
  obtain ⟨arguments, -, hout⟩ := bind_eq_ok.mp hout
  obtain ⟨thread, -, hout⟩ := bind_eq_ok.mp hout
  split at hout
  · cases hout
  · cases hout
    simp

theorem noticesIn_scopes (hout : scopes request session = .ok out) :
    noticesIn out.2 = [.reply (request.reply true)] := by
  obtain ⟨arguments, -, hout⟩ := bind_eq_ok.mp hout
  cases hout
  simp

theorem noticesIn_listVariables (hout : listVariables request session = .ok out) :
    noticesIn out.2 = [.reply (request.reply true)] := by
  obtain ⟨arguments, -, hout⟩ := bind_eq_ok.mp hout
  obtain ⟨reference, -, hout⟩ := bind_eq_ok.mp hout
  split at hout
  · cases hout
  · cases hout
    simp

theorem noticesIn_terminate (hout : terminate request session = .ok out) :
    noticesIn out.2 =
      [.reply (request.reply true), .event { name := "terminated", body := none }] := by
  cases hout
  simp

/-! ## Requests that are not -/

theorem noticesIn_spawnAttaches (session : Session) :
    noticesIn (spawnAttaches session).2 = [] := by
  unfold spawnAttaches
  split
  · rfl
  · have hall := noticesIn_spawns session (session.contexts.contexts.map fun context =>
      .attach context.thread .starting)
    rw [List.map_map] at hall
    exact hall

theorem noticesIn_launch (hout : launch request session = .ok out) :
    (session.launchErrand? request).isSome = true ∧ noticesIn out.2 = [] := by
  rcases launch_eq request session with ⟨arguments, serverPath, -, -, herrand, haccepted⟩ |
      ⟨-, fault, hrefused⟩
  · rw [haccepted] at hout
    cases hout
    refine ⟨by rw [herrand]; rfl, ?_⟩
    simp [noticesIn_spawnAttaches]
    rfl
  · rw [hrefused] at hout
    cases hout

theorem noticesIn_restart (hout : restart request session = .ok out) :
    (session.resourceName.map Errand.restart).isSome = true ∧ noticesIn out.2 = [] := by
  rcases restart_eq request session with ⟨resource, hresource, haccepted⟩ | ⟨-, fault, hrefused⟩
  · rw [haccepted] at hout
    cases hout
    exact ⟨by rw [hresource]; rfl, rfl⟩
  · rw [hrefused] at hout
    cases hout

theorem noticesIn_evaluate (hout : evaluate request session = .ok out) :
    (evaluateErrand? request).isSome = true ∧ noticesIn out.2 = [] := by
  rcases evaluate_eq request session with ⟨expression, herrand, haccepted⟩ | ⟨-, fault, hrefused⟩
  · rw [haccepted] at hout
    cases hout
    exact ⟨by rw [herrand]; rfl, rfl⟩
  · rw [hrefused] at hout
    cases hout

theorem noticesIn_resume {mode : ResumeMode} (hout : resume mode request session = .ok out) :
    (session.resumeErrand? mode request).isSome = true ∧ noticesIn out.2 = [] := by
  rcases resume_eq mode request session with ⟨thread, context, hthread, hget, haccepted⟩ |
      ⟨-, fault, hrefused⟩
  · rw [haccepted] at hout
    cases hout
    refine ⟨by simp [resumeErrand?, hthread, hget], ?_⟩
    simp
  · rw [hrefused] at hout
    cases hout

/-! ## Any request -/

/-- An accepted request is answered at once unless it is an errand. -/
theorem noticesIn_handler {command : String} (hcommand : request.command = command)
    (hout : handler command request session = .ok out) :
    noticesIn out.2 =
      (if (session.errandFor command request).isSome then [] else [.reply (request.reply true)]) ++
        if command ∈ endCommands then [.event { name := "terminated", body := none }] else [] := by
  have hplain : ∀ {effects : List Effect}, noticesIn effects = [.reply (request.reply true)] →
      session.errandFor command request = none → command ∉ endCommands →
      noticesIn effects = (if (session.errandFor command request).isSome then []
        else [.reply (request.reply true)]) ++
        if command ∈ endCommands then [.event { name := "terminated", body := none }] else [] := by
    intro effects hreply hnone hgoes
    rw [hreply, hnone, if_neg hgoes]
    rfl
  have herrand : ∀ {effects : List Effect},
      (session.errandFor command request).isSome = true ∧ noticesIn effects = [] →
      command ∉ endCommands →
      noticesIn effects = (if (session.errandFor command request).isSome then []
        else [.reply (request.reply true)]) ++
        if command ∈ endCommands then [.event { name := "terminated", body := none }] else [] := by
    intro effects hsome hgoes
    rw [hsome.2, hsome.1, if_neg hgoes]
    rfl
  unfold handler at hout
  split at hout
  · exact hplain (noticesIn_handshake hout) rfl (by simp [endCommands])
  · exact herrand (noticesIn_launch hout) (by simp [endCommands])
  · cases hout
    exact hplain (by simp) rfl (by simp [endCommands])
  · exact herrand (noticesIn_restart hout) (by simp [endCommands])
  · exact hplain (noticesIn_setBreakpoints hout) rfl (by simp [endCommands])
  · cases hout
    exact hplain (by simp) rfl (by simp [endCommands])
  · exact hplain (noticesIn_stackTrace hout) rfl (by simp [endCommands])
  · exact hplain (noticesIn_scopes hout) rfl (by simp [endCommands])
  · exact hplain (noticesIn_listVariables hout) rfl (by simp [endCommands])
  · exact herrand (noticesIn_resume hout) (by simp [endCommands])
  · exact herrand (noticesIn_resume hout) (by simp [endCommands])
  · exact herrand (noticesIn_resume hout) (by simp [endCommands])
  · exact herrand (noticesIn_evaluate hout) (by simp [endCommands])
  · rw [noticesIn_terminate hout]
    rfl
  · rw [noticesIn_terminate hout]
    rfl
  · cases hout
    refine hplain (noticesIn_send session _) ?_ ?_
    · unfold errandFor
      split <;> first | contradiction | rfl
    · simp only [endCommands, List.mem_cons, List.not_mem_nil, or_false, not_or]
      exact ⟨by assumption, by assumption⟩

end Handlers

end Session

end DebugBridge
