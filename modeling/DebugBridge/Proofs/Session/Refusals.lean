import DebugBridge.Proofs.Session.ArgumentFaults
import DebugBridge.Proofs.Session.Duties

/-!
# Refused requests

A request is refused on one of a few grounds, read off the request and the session.  A refusal is
one response and one number of the outbox; nothing else of the session is touched.
-/

namespace DebugBridge

/-! ## Grounds -/

namespace Session

/-- Commands that name a thread. -/
def threadCommands : List String := "stackTrace" :: resumeCommands

/-- The arguments are of the right types, but this one is missing or empty. -/
inductive Lacks (request : Request) : String → Prop
  | serverPath {arguments : LaunchArguments} (hcommand : request.command = "launch")
      (hdecoded : decodeArguments Arguments.launchDecoder {} request = .ok arguments)
      (hmissing : arguments.usableServerPath = none) : Lacks request "serverpath"
  | sourcePath {arguments : SetBreakpointsArguments} (hcommand : request.command = "setBreakpoints")
      (hdecoded : decodeArguments Arguments.setBreakpointsDecoder {} request = .ok arguments)
      (hmissing : (arguments.source.path.filter fun path => !path.isEmpty) = none) :
      Lacks request "source.path"
  | thread {arguments : ThreadArguments} (hcommand : request.command ∈ threadCommands)
      (hdecoded : decodeArguments Arguments.threadDecoder {} request = .ok arguments)
      (hmissing : arguments.thread = none) : Lacks request "threadId"
  | reference {arguments : VariablesArguments} (hcommand : request.command = "variables")
      (hdecoded : decodeArguments Arguments.variablesDecoder {} request = .ok arguments)
      (hmissing : arguments.reference = none) : Lacks request "variablesReference"
  | expression {arguments : EvaluateArguments} (hcommand : request.command = "evaluate")
      (hdecoded : decodeArguments Arguments.evaluateDecoder {} request = .ok arguments)
      (hmissing : arguments.expression = none) : Lacks request "expression"

/-- On what grounds a session refuses a request. -/
inductive Grounds (session : Session) (request : Request) : RequestFault → Prop
  | undecodable {mismatch : Mismatch} (hnull : request.arguments.isNull = false)
      (hwrong : checkArguments request.command request.arguments = some mismatch) :
      Grounds session request
        (.invalidArguments request.command (Redaction.json mismatch.message))
  | lacking {name : String} (hlacks : Lacks request name) :
      Grounds session request (.invalidArguments request.command (name ++ " is required"))
  | launchedBefore {arguments : LaunchArguments} (hcommand : request.command = "launch")
      (hdecoded : decodeArguments Arguments.launchDecoder {} request = .ok arguments)
      (hpath : arguments.usableServerPath.isSome = true)
      (hlaunched : session.launched.isSome = true) : Grounds session request .alreadyLaunched
  | unknownThread {thread : Int} (hcommand : request.command ∈ threadCommands)
      (hdecoded : decodeArguments Arguments.threadDecoder {} request = .ok { thread := thread })
      (hunknown : session.contexts.get? thread = none) :
      Grounds session request (.unknownThread thread)
  | unknownReference {reference : Int} (hcommand : request.command = "variables")
      (hdecoded : decodeArguments Arguments.variablesDecoder {} request =
        .ok { reference := reference })
      (hunknown : session.handles.get? reference = none) :
      Grounds session request (.unknownReference reference)
  | unattached (hcommand : request.command = "restart") (hnone : session.resourceName = none) :
      Grounds session request .notAttached

section Checks

variable {request : Request} {session : Session} {fault : RequestFault}

theorem decodeArguments_eq_error {α : Type} {decoder : JsonDecoder α} {absent : α}
    (hrefused : decodeArguments decoder absent request = .error fault) :
    ∃ mismatch, request.arguments.isNull = false ∧
      decoder.mismatch? request.arguments = some mismatch ∧
      fault = .invalidArguments request.command (Redaction.json mismatch.message) := by
  unfold decodeArguments at hrefused
  split at hrefused
  · cases hrefused
  · next hnull =>
      split at hrefused
      · cases hrefused
      · next mismatch hrun =>
          cases hrefused
          exact ⟨mismatch, Bool.eq_false_iff.mpr hnull, by rw [JsonDecoder.mismatch?, hrun], rfl⟩

theorem requireArgument_eq_error_iff {α : Type} {name : String} {given : Option α} :
    requireArgument request name given = .error fault ↔
      given = none ∧ fault = .invalidArguments request.command (name ++ " is required") := by
  cases given with
  | none => simp [requireArgument, eq_comm]
  | some value => simp [requireArgument]

/-- Arguments that are not decoded are grounds of their own. -/
theorem grounds_of_decode {α : Type} {decoder : JsonDecoder α} {absent : α}
    (hchecked : checkArguments request.command = decoder.mismatch?)
    (hrefused : decodeArguments decoder absent request = .error fault) :
    Grounds session request fault := by
  obtain ⟨mismatch, hnull, hwrong, rfl⟩ := decodeArguments_eq_error hrefused
  exact .undecodable hnull (hchecked ▸ hwrong)

/-- A missing argument is another. -/
theorem grounds_of_missing {α : Type} {name : String} {given : Option α}
    (hlacks : given = none → Lacks request name)
    (hrefused : requireArgument request name given = .error fault) :
    Grounds session request fault := by
  obtain ⟨hmissing, rfl⟩ := requireArgument_eq_error_iff.mp hrefused
  exact .lacking (hlacks hmissing)

theorem requireArgument_eq_ok {α : Type} {name : String} {given : Option α} {value : α}
    (hgiven : requireArgument request name given = .ok value) : given = some value := by
  cases given with
  | none => cases hgiven
  | some found => exact congrArg some (Except.ok.inj hgiven)

end Checks

section Handlers

variable {request : Request} {session : Session} {fault : RequestFault}

theorem grounds_launch (hcommand : request.command = "launch")
    (hrefused : launch request session = .error fault) : Grounds session request fault := by
  rcases bind_eq_error_iff.mp hrefused with hdecode | ⟨arguments, hdecoded, hrefused⟩
  · exact grounds_of_decode (by rw [hcommand]; rfl) hdecode
  · rcases bind_eq_error_iff.mp hrefused with hmissing | ⟨serverPath, hpath, hrefused⟩
    · exact grounds_of_missing (.serverPath hcommand hdecoded) hmissing
    · by_cases hlaunched : session.launched.isSome = true
      · simp only [hlaunched, if_true] at hrefused
        cases hrefused
        exact .launchedBefore hcommand hdecoded
          (Option.isSome_of_eq_some (requireArgument_eq_ok hpath)) hlaunched
      · simp only [hlaunched, Bool.false_eq_true, if_false] at hrefused
        cases hrefused

theorem grounds_setBreakpoints (hcommand : request.command = "setBreakpoints")
    (hrefused : setBreakpoints request session = .error fault) :
    Grounds session request fault := by
  rcases bind_eq_error_iff.mp hrefused with hdecode | ⟨arguments, hdecoded, hrefused⟩
  · exact grounds_of_decode (by rw [hcommand]; rfl) hdecode
  · rcases bind_eq_error_iff.mp hrefused with hmissing | ⟨path, hpath, hrefused⟩
    · exact grounds_of_missing (.sourcePath hcommand hdecoded) hmissing
    · cases hrefused

/-- A command that names a thread is refused for its arguments or for the thread. -/
theorem grounds_of_thread {turn : Int → Except RequestFault (Session × List Effect)}
    (hcommand : request.command ∈ threadCommands)
    (hturn : ∀ thread, turn thread = .error fault →
      session.contexts.get? thread = none ∧ fault = .unknownThread thread)
    (hrefused : (do
      let arguments ← decodeArguments Arguments.threadDecoder {} request
      let thread ← requireArgument request "threadId" arguments.thread
      turn thread) = .error fault) : Grounds session request fault := by
  have hchecked : checkArguments request.command = Arguments.threadDecoder.mismatch? := by
    simp only [threadCommands, resumeCommands, List.mem_cons, List.not_mem_nil, or_false]
      at hcommand
    rcases hcommand with hcommand | hcommand | hcommand | hcommand <;> rw [hcommand] <;> rfl
  rcases bind_eq_error_iff.mp hrefused with hdecode | ⟨arguments, hdecoded, hrefused⟩
  · exact grounds_of_decode hchecked hdecode
  · rcases bind_eq_error_iff.mp hrefused with hmissing | ⟨thread, hthread, hrefused⟩
    · exact grounds_of_missing (.thread hcommand hdecoded) hmissing
    · obtain ⟨hunknown, rfl⟩ := hturn thread hrefused
      obtain ⟨given⟩ := arguments
      cases requireArgument_eq_ok hthread
      exact .unknownThread hcommand hdecoded hunknown

theorem grounds_stackTrace (hcommand : request.command = "stackTrace")
    (hrefused : stackTrace request session = .error fault) : Grounds session request fault := by
  refine grounds_of_thread (by simp [hcommand, threadCommands]) (fun thread hturn => ?_) hrefused
  split at hturn
  · next hunknown => exact ⟨hunknown, (Except.error.inj hturn).symm⟩
  · cases hturn

theorem grounds_resume {mode : ResumeMode} (hcommand : request.command ∈ resumeCommands)
    (hrefused : resume mode request session = .error fault) : Grounds session request fault := by
  refine grounds_of_thread (List.mem_cons_of_mem _ hcommand) (fun thread hturn => ?_) hrefused
  split at hturn
  · next contexts hstart =>
      refine ⟨?_, (Except.error.inj hturn).symm⟩
      exact Option.map_eq_none_iff.mp (congrArg Prod.fst hstart)
  · cases hturn

theorem grounds_listVariables (hcommand : request.command = "variables")
    (hrefused : listVariables request session = .error fault) :
    Grounds session request fault := by
  rcases bind_eq_error_iff.mp hrefused with hdecode | ⟨arguments, hdecoded, hrefused⟩
  · exact grounds_of_decode (by rw [hcommand]; rfl) hdecode
  · rcases bind_eq_error_iff.mp hrefused with hmissing | ⟨reference, hreference, hrefused⟩
    · exact grounds_of_missing (.reference hcommand hdecoded) hmissing
    · split at hrefused
      · next hunknown =>
          cases hrefused
          obtain ⟨given⟩ := arguments
          cases requireArgument_eq_ok hreference
          exact .unknownReference hcommand hdecoded hunknown
      · cases hrefused

theorem grounds_evaluate (hcommand : request.command = "evaluate")
    (hrefused : evaluate request session = .error fault) : Grounds session request fault := by
  rcases bind_eq_error_iff.mp hrefused with hdecode | ⟨arguments, hdecoded, hrefused⟩
  · exact grounds_of_decode (by rw [hcommand]; rfl) hdecode
  · rcases bind_eq_error_iff.mp hrefused with hmissing | ⟨expression, hexpression, hrefused⟩
    · exact grounds_of_missing (.expression hcommand hdecoded) hmissing
    · cases hrefused

/-- A refused request is refused on grounds. -/
theorem grounds_of_refused {command : String} (hcommand : request.command = command)
    (hrefused : handler command request session = .error fault) :
    Grounds session request fault := by
  have hdecode : ∀ {α : Type} {decoder : JsonDecoder α} {absent : α}
      {rest : α → Except RequestFault (Session × List Effect)},
      checkArguments command = decoder.mismatch? →
      (∀ arguments, ∃ out, rest arguments = .ok out) →
      (decodeArguments decoder absent request >>= rest) = .error fault →
      Grounds session request fault := by
    intro α decoder absent rest hchecked haccepts hrefused
    rcases bind_eq_error_iff.mp hrefused with hfault | ⟨arguments, -, hfault⟩
    · exact grounds_of_decode (hcommand ▸ hchecked) hfault
    · obtain ⟨out, hout⟩ := haccepts arguments
      cases hout.symm.trans hfault
  unfold handler at hrefused
  split at hrefused
  · exact hdecode rfl (fun _ => ⟨_, rfl⟩) hrefused
  · exact grounds_launch hcommand hrefused
  · cases hrefused
  · unfold restart at hrefused
    split at hrefused
    · next hnone =>
        cases hrefused
        exact .unattached hcommand hnone
    · cases hrefused
  · exact grounds_setBreakpoints hcommand hrefused
  · cases hrefused
  · exact grounds_stackTrace hcommand hrefused
  · exact hdecode rfl (fun _ => ⟨_, rfl⟩) hrefused
  · exact grounds_listVariables hcommand hrefused
  · exact grounds_resume (by simp [hcommand, resumeCommands]) hrefused
  · exact grounds_resume (by simp [hcommand, resumeCommands]) hrefused
  · exact grounds_resume (by simp [hcommand, resumeCommands]) hrefused
  · exact grounds_evaluate hcommand hrefused
  · cases hrefused
  · cases hrefused
  · cases hrefused

/-- A command that names a thread is refused without one that is known. -/
theorem handler_of_thread {thread? : Option Int} (hcommand : request.command ∈ threadCommands)
    (hdecoded : decodeArguments Arguments.threadDecoder {} request = .ok { thread := thread? })
    (hfault : match thread? with
      | none => fault = .invalidArguments request.command "threadId is required"
      | some thread => session.contexts.get? thread = none ∧ fault = .unknownThread thread) :
    handler request.command request session = .error fault := by
  have hresume : ∀ mode, resume mode request session = .error fault := by
    intro mode
    cases thread? with
    | none => simp [resume, hdecoded, requireArgument, bind, Except.bind, hfault]
    | some thread =>
        simp [resume, hdecoded, requireArgument, bind, Except.bind, Contexts.startCommand, hfault]
  simp only [threadCommands, resumeCommands, List.mem_cons, List.not_mem_nil, or_false] at hcommand
  rcases hcommand with hcommand | hcommand | hcommand | hcommand
  · rw [hcommand] at hfault ⊢
    show stackTrace request session = .error fault
    cases thread? with
    | none => simp [stackTrace, hdecoded, requireArgument, bind, Except.bind, hcommand, hfault]
    | some thread => simp [stackTrace, hdecoded, requireArgument, bind, Except.bind, hfault]
  · rw [hcommand]
    exact hresume .resume
  · rw [hcommand]
    exact hresume .stepOver
  · rw [hcommand]
    exact hresume .stepInto

theorem handler_of_lacks {name : String} (hlacks : Lacks request name) :
    handler request.command request session =
      .error (.invalidArguments request.command (name ++ " is required")) := by
  cases hlacks with
  | serverPath hcommand hdecoded hmissing =>
      rw [hcommand]
      show launch request session = _
      simp [launch, hdecoded, hmissing, requireArgument, bind, Except.bind, hcommand]
  | sourcePath hcommand hdecoded hmissing =>
      rw [hcommand]
      show setBreakpoints request session = _
      simp [setBreakpoints, hdecoded, hmissing, requireArgument, bind, Except.bind, hcommand]
  | @thread arguments hcommand hdecoded hmissing =>
      obtain ⟨given⟩ := arguments
      cases hmissing
      exact handler_of_thread hcommand hdecoded rfl
  | reference hcommand hdecoded hmissing =>
      rw [hcommand]
      show listVariables request session = _
      simp [listVariables, hdecoded, hmissing, requireArgument, bind, Except.bind, hcommand]
  | expression hcommand hdecoded hmissing =>
      rw [hcommand]
      show evaluate request session = _
      simp [evaluate, hdecoded, hmissing, requireArgument, bind, Except.bind, hcommand]

/-- Whatever the grounds, the handler refuses. -/
theorem Grounds.refused (hgrounds : Grounds session request fault) :
    handler request.command request session = .error fault := by
  cases hgrounds with
  | undecodable hnull hwrong => exact handler_of_mismatch hnull hwrong session
  | lacking hlacks => exact handler_of_lacks hlacks
  | launchedBefore hcommand hdecoded hpath hlaunched =>
      obtain ⟨path, hpath⟩ := Option.isSome_iff_exists.mp hpath
      rw [hcommand]
      show launch request session = _
      simp [launch, hdecoded, hpath, requireArgument, bind, Except.bind, hlaunched]
  | unknownThread hcommand hdecoded hunknown =>
      exact handler_of_thread hcommand hdecoded ⟨hunknown, rfl⟩
  | unknownReference hcommand hdecoded hunknown =>
      rw [hcommand]
      show listVariables request session = _
      simp [listVariables, hdecoded, requireArgument, bind, Except.bind, hunknown]
  | unattached hcommand hnone =>
      rw [hcommand]
      show restart request session = _
      simp [restart, hnone]

theorem refused_iff_grounds :
    handler request.command request session = .error fault ↔ Grounds session request fault :=
  ⟨grounds_of_refused rfl, Grounds.refused⟩

end Handlers

/-! ## What a refusal leaves -/

/-- The session takes note of a request only by one response and the number that this takes. -/
structure TurnsDown (session : Session) (now : Nat) (request : Request) (fault : RequestFault) :
    Prop where
  unchanged : (step now (.request request) session).1 =
    { session with
      outbox := { session.outbox with nextSeq := session.outbox.nextSeq + 1 } }
  messages : messagesIn (step now (.request request) session).2 =
    [(Message.failure request fault.message).toJson session.outbox.nextSeq]
  /-- Nothing is called, started, put off or dropped. -/
  effects : ∀ effect ∈ (step now (.request request) session).2,
    (∃ record, effect = .log record) ∨ ∃ message, effect = .send message

theorem turnsDown_of_refused {session : Session} {request : Request} {fault : RequestFault}
    (htidy : session.Tidy) (now : Nat)
    (hrefused : handler request.command request session = .error fault) :
    TurnsDown session now request fault := by
  have hstep : step now (.request request) session = refuse request fault session := by
    have hreact : react now (.request request) session = refuse request fault session := by
      simp only [react, handle, hrefused]
    have hafter : (refuse request fault session).1.Tidy := htidy.congr rfl rfl
    apply Prod.ext
    · rw [step, Turn.andThen_fst, hreact, hafter.reap_eq]
    · rw [step, Turn.andThen_snd, hreact, hafter.reap_eq, List.append_nil]
  refine ⟨by rw [hstep]; rfl, refuses_of_handler rfl now hrefused, ?_⟩
  rw [hstep]
  intro effect heffect
  simp only [refuse, log, respondFailure, send, Turn.andThen_snd, Turn.effect_apply,
    List.mem_append, List.mem_singleton, List.mem_map] at heffect
  rcases heffect with rfl | ⟨record, -, rfl⟩ | rfl
  · exact .inl ⟨_, rfl⟩
  · exact .inl ⟨record, rfl⟩
  · exact .inr ⟨_, rfl⟩

/-- A reply that tells of a failure at once is a refusal. -/
theorem exists_failure_iff (session : Session) (now : Nat) (request : Request) :
    (∃ reply ∈ repliesIn (step now (.request request) session).2, reply.success = false) ↔
      ∃ fault, handler request.command request session = .error fault := by
  have hreplies : repliesIn (step now (.request request) session).2 =
      if (session.errand? request).isSome then []
      else [request.reply (session.accepts request)] := by
    rw [repliesIn_eq, noticesIn_step, notices]
    by_cases herrand : (session.errand? request).isSome <;>
      by_cases hends : request.command ∈ endCommands <;>
      simp [herrand, hends, Notice.reply?]
  rw [hreplies]
  cases hout : handler request.command request session with
  | ok out =>
      have haccepts : session.accepts request = true := by
        rw [accepts, hout]
        rfl
      simp [haccepts, Request.reply]
  | error fault =>
      have haccepts : session.accepts request = false := by
        rw [accepts, hout]
        rfl
      have hnone : session.errand? request = none := errandFor_eq_none_of_refused hout
      simp [haccepts, hnone, Request.reply]

open Contexts (startCommand_of_unknown)

/-- How a session refuses requests after a run. -/
structure Refusing (config : BackendConfig) (events : List (Nat × SessionEvent)) : Prop where
  /-- A request fails at once exactly if there are grounds to refuse it. -/
  grounded : ∀ now request,
    (∃ reply ∈ repliesIn (step now (.request request) (run events (ofConfig config)).1).2,
      reply.success = false) ↔
      ∃ fault, Grounds (run events (ofConfig config)).1 request fault
  unchanged : ∀ now request fault, Grounds (run events (ofConfig config)).1 request fault →
    TurnsDown (run events (ofConfig config)).1 now request fault
  /-- The contexts do not rely on their caller to drop what an unknown thread began. -/
  unbegun : ∀ thread, (run events (ofConfig config)).1.contexts.get? thread = none →
    (run events (ofConfig config)).1.contexts.startCommand thread =
      (none, (run events (ofConfig config)).1.contexts)

/-- Whatever led there, a request that fails at once changes nothing. -/
theorem failed_requests_change_nothing (config : BackendConfig)
    (events : List (Nat × SessionEvent)) : Refusing config events where
  grounded now request :=
    (exists_failure_iff (run events (ofConfig config)).1 now request).trans
      (exists_congr fun _ => refused_iff_grounds)
  unchanged now _ _ hgrounds := turnsDown_of_refused (tidy_run config events) now hgrounds.refused
  unbegun _ hunknown := startCommand_of_unknown hunknown

/-- A launch with the path of a server. -/
def launchRequest : Request where
  command := "launch"
  arguments := .object [("serverpath", .string "server")]

/-- The second launch is refused. -/
example : Grounds (run [(0, .request launchRequest)] (ofConfig {})).1 launchRequest
    .alreadyLaunched := by
  have hdecoded : decodeArguments Arguments.launchDecoder {} launchRequest =
      .ok { serverPath := "server" } := rfl
  exact .launchedBefore rfl hdecoded (by decide) rfl

end Session

end DebugBridge
