import DebugBridge.Proofs.Backend.Endpoints
import DebugBridge.Proofs.Backend.Refusals
import DebugBridge.Proofs.Backend.RunStates
import DebugBridge.Proofs.Backend.Snapshots
import DebugBridge.Proofs.Decode.Taken
import DebugBridge.Simulation.Bench

/-!
# Exchanges with the backend

A call travels as a request to an endpoint of the backend, with a JSON text for a body, and the JSON
text of the reply is decoded.  The names of the endpoints and of the members of the bodies are
written down on both sides.  They agree: with a backend that works, a call does to its state what
the call is for, and tells what the state has to tell.
-/

namespace DebugBridge

open Json

/-- What a call has come to for its caller. -/
inductive BackendAnswer
  | done (outcome : Except BackendFault Unit)
  | info (outcome : Except BackendFault ResourceInfo)
  | runState (outcome : Except BackendFault RunState)
  | result (outcome : Except BackendFault String)

/-- A reply as it travels. -/
def SimulatedReply.sent (reply : SimulatedReply) : HttpReply where
  status := reply.status
  body := Bench.bodyBytes reply.body

/-! ## Bodies -/

theorem nesting_ofMembers_le {members : List (String × Json)}
    (hflat : ∀ member ∈ members, member.2.nesting = 0) :
    (ofMembers members).nesting ≤ nestingLimit := by
  have hmembers : nestingMembers (sortMembers members) ≤ 0 :=
    nestingMembers_le_iff.mpr fun member hmember =>
      Nat.le_of_eq (hflat member (mem_sortMembers hmember))
  exact Nat.le_trans (Nat.succ_le_succ hmembers) (by decide)

/-- An object of texts and integers of 64 bits survives printing. -/
theorem parse_bytes_ofMembers {members : List (String × Json)}
    (hmembers : ∀ member ∈ members, member.2.Integral ∧ member.2.nesting = 0) :
    parse (ofMembers members).bytes = .ok (ofMembers members) :=
  parse_bytes ⟨ascending_sortMembers members, integralMembers_iff.mpr fun member hmember =>
      (hmembers member (mem_sortMembers hmember)).1⟩
    (nesting_ofMembers_le fun member hmember => (hmembers member hmember).2)

theorem integral_nat {n : Nat} (hn : n ≤ 4) : (nat n).Integral := by
  change -0x8000000000000000 ≤ (n : Int) ∧ (n : Int) < 0x10000000000000000
  omega

theorem integral_int {value : Int} (hfits : fitsInt64 value = true) : (int value).Integral := by
  change -0x8000000000000000 ≤ value ∧ value < 0x10000000000000000
  simp only [fitsInt64, Bool.and_eq_true, decide_eq_true_eq] at hfits
  omega

namespace BackendCall

/-- What the caller is told of an outcome. -/
def answer (outcome : Outcome) : BackendCall → BackendAnswer
  | .info suffix => .info (BackendClient.info suffix outcome)
  | .runState suffix => .runState (BackendClient.runState suffix outcome)
  | .evalResult => .result (BackendClient.evalResult outcome)
  | made => .done (BackendClient.accepted made outcome)

variable {made : BackendCall}

/-- The body of a call can be parsed again. -/
theorem parse_body (hsendable : made.Sendable) :
    ∀ value ∈ made.body?, parse value.bytes = .ok value := by
  intro value hvalue
  cases made with
  | setResumeMode suffix mode =>
      cases hvalue
      exact parse_bytes_ofMembers (List.forall_mem_singleton.mpr
        ⟨integral_nat mode.code_le, rfl⟩)
  | setBreakpoint file line =>
      cases hvalue
      exact parse_bytes_ofMembers (List.forall_mem_cons.mpr
        ⟨⟨trivial, rfl⟩, List.forall_mem_singleton.mpr ⟨integral_int hsendable, rfl⟩⟩)
  | setPendingEval expression =>
      cases hvalue
      exact parse_bytes_ofMembers (List.forall_mem_singleton.mpr ⟨trivial, rfl⟩)
  | serverCommand command =>
      cases hvalue
      exact parse_bytes_ofMembers (List.forall_mem_singleton.mpr ⟨trivial, rfl⟩)
  | _ => cases hvalue

end BackendCall

namespace SimulatedBackend

/-- The client makes a call, the backend answers, and the client reads the reply. -/
def exchange (base : Url) (made : BackendCall) (backend : SimulatedBackend) :
    BackendAnswer × SimulatedBackend :=
  match BackendClient.exchangeUrl base made with
  | .error fault => (made.answer (.error fault), backend)
  | .ok url =>
    let (reply, backend) := backend.handle made.method.name (String.ofList url.path.text)
      (Bench.bodyBytes made.body?)
    (made.answer (.ok reply.sent), backend)

/-! ## What calls are for -/

/-- The backend is available and none of its endpoints is made to fail. -/
structure Works (backend : SimulatedBackend) : Prop where
  available : backend.unavailable = false
  willing : backend.failing = []

/-- A change of what the backend knows of a context. -/
def adjust (suffix : String) (change : SimulatedContext → SimulatedContext)
    (backend : SimulatedBackend) : SimulatedBackend :=
  backend.putContext suffix (change (backend.context suffix))

end SimulatedBackend

/-- The resource that is reported for a context; none has started before. -/
def SimulatedContext.resource (context : SimulatedContext) : ResourceInfo where
  name := context.info.map (·.1)
  path := context.info.map (·.2)

/-- The reply to a request for the resource. -/
def SimulatedContext.infoReply (context : SimulatedContext) : Json :=
  .ofMembers (match context.info with
    | some (name, path) => [("resource_name", .string name), ("resource_path", .string path)]
    | none => [])

namespace BackendCall

open SimulatedBackend

/-- What a call does to the state of the backend. -/
def effect (backend : SimulatedBackend) : BackendCall → SimulatedBackend
  | .info suffix => backend.adjust suffix fun context =>
      { context with infoRequests := context.infoRequests + 1 }
  | .runState suffix => backend.adjust suffix fun context =>
      { context with polls := context.polls + 1 }
  | .setResumeMode suffix mode => backend.adjust suffix fun context =>
      { context with mode, postedModes := context.postedModes ++ [mode] }
  | .setBreakpoint file line =>
      { backend with
        breakpoints := backend.breakpoints ++ [(file, line)]
        changes := backend.changes ++ [.set file line] }
  | .clearBreakpoints =>
      { backend with breakpoints := [], changes := backend.changes ++ [.clear] }
  | .setPendingEval expression =>
      { backend with
        pendingEval := some expression
        submittedEvals := backend.submittedEvals ++ [expression] }
  | .evalResult => { backend with evalResult := none }
  | .serverCommand command => { backend with commands := backend.commands ++ [command] }

/-- What the state of the backend has to tell a call. -/
def Tells (backend : SimulatedBackend) : BackendCall → BackendAnswer → Prop
  | .info suffix, told => told = .info (.ok (backend.context suffix).resource)
  | .runState suffix, told =>
      if (backend.context suffix).reply.nesting ≤ nestingLimit then
        told = .runState (.ok (backend.context suffix).reread.runState)
      else ∃ text, told = .runState (.error (.decode (BackendCall.runState suffix).path text))
  | .evalResult, told =>
      told = .result (match backend.evalResult with
        | some result => .ok result
        | none => .error (.status BackendCall.evalResult.path 404))
  | _, told => told = .done (.ok ())

end BackendCall

/-! ## Endpoints -/

namespace SimulatedBackend

variable {backend : SimulatedBackend} {suffix : String}

section Endpoints

theorem suffixOf?_of_mem (name : String) (hsuffix : suffix ∈ contextSuffixes) :
    suffixOf? name (name ++ suffix) = some suffix := by
  rcases suffixOf?_append name suffix with hfound | hnone
  · exact hfound
  · exact absurd (beq_self_eq_true (name ++ suffix)) (List.find?_eq_none.mp hnone suffix hsuffix)

theorem getEndpoint_info (hsuffix : suffix ∈ contextSuffixes) :
    backend.getEndpoint ("get_info" ++ suffix) = backend.getInfo suffix := by
  simp only [getEndpoint, suffixOf?_of_mem "get_info" hsuffix]

theorem getEndpoint_resumeMode (hsuffix : suffix ∈ contextSuffixes) :
    backend.getEndpoint ("get_resume_mode" ++ suffix) = backend.getResumeMode suffix := by
  have hinfo : suffixOf? "get_info" ("get_resume_mode" ++ suffix) = none :=
    suffixOf?_of_ne (by decide) (by decide) suffix
  simp only [getEndpoint, hinfo, suffixOf?_of_mem "get_resume_mode" hsuffix]

theorem postEndpoint_resumeMode (hsuffix : suffix ∈ contextSuffixes) (body : Json) :
    backend.postEndpoint ("set_resume_mode" ++ suffix) body =
      backend.postResumeMode suffix body := by
  have hinfo : suffixOf? "set_info" ("set_resume_mode" ++ suffix) = none :=
    suffixOf?_of_ne (by decide) (by decide) suffix
  simp only [postEndpoint, hinfo, suffixOf?_of_mem "set_resume_mode" hsuffix]

theorem textMember?_of_single (name text : String) :
    textMember? (.ofMembers [(name, .string text)]) name = some text := by
  simp [textMember?, sortMembers, string?]

/-- A working backend sends a request to the endpoint of its path. -/
theorem respond_of_works (hworks : backend.Works) (method : HttpMethod) (endpoint : String)
    (body : Json) : backend.respond method.name (debugPath ++ "/" ++ endpoint) body =
      match method with
      | .get => backend.getEndpoint endpoint
      | .post => backend.postEndpoint endpoint body := by
  have hdebug := @respond_debug backend method endpoint body
  rw [if_neg (by simp [hworks.available]), if_neg (by simp [hworks.willing])] at hdebug
  exact hdebug

theorem serve_of_works (hworks : backend.Works) (made : BackendCall) (endpoint : String)
    (hpath : made.path = debugPath ++ "/" ++ endpoint) :
    backend.serve made = match made.method with
      | .get => backend.getEndpoint endpoint
      | .post => backend.postEndpoint endpoint (made.body?.getD .null) := by
  rw [serve, hpath]
  exact respond_of_works hworks _ _ _

/-- A mode that is posted alone leaves the snapshot alone. -/
theorem postResumeMode_mode (mode : ResumeMode) :
    (backend.postResumeMode suffix (.ofMembers [("resume_mode", .nat mode.code)])) =
      (.ok (.ofMembers [("resume_mode", .nat mode.code)]),
        (BackendCall.setResumeMode suffix mode).effect backend) := by
  have hmode : modeOf? (.ofMembers [("resume_mode", .nat mode.code)]) = some mode := by
    cases mode <;> rfl
  have hsnapshot : PauseSnapshot.ofBody? (.ofMembers [("resume_mode", .nat mode.code)]) = none :=
    rfl
  simp only [postResumeMode, hmode, hsnapshot, Option.none_or]
  rfl

end Endpoints

end SimulatedBackend

/-! ## Replies -/

/-- The line of a snapshot has 64 bits, and the numbers in its tables can be held. -/
structure PauseSnapshot.Held (snapshot : PauseSnapshot) : Prop where
  line : fitsInt64 snapshot.line = true
  localVariables : HeldMembers snapshot.localVariables
  upvalueVariables : HeldMembers snapshot.upvalueVariables
  globalVariables : HeldMembers snapshot.globalVariables

/-- What a context has to show can be held. -/
def SimulatedContext.Held (context : SimulatedContext) : Prop :=
  ∀ snapshot ∈ context.snapshot, snapshot.Held

section Takes

open TextDecoder

theorem takes_text (text : String) :
    Takes (Format.optional Format.string) (.string text) (some text) :=
  takes_optional (takes_string text) (by simp)

namespace RunState

theorem takes_mode (mode : ResumeMode) : Takes ResumeMode.decoder (.nat mode.code) mode := by
  have hrange : 0 ≤ (mode.code : Int) ∧ (mode.code : Int) ≤ 255 := by cases mode <;> decide
  have hbyte : Takes Format.byte (.nat mode.code) mode.code :=
    takes_map Int.toNat (takes_integer "u8" (by decide) (by decide) hrange)
  refine takes_refine hbyte ?_
  rw [ResumeMode.ofCode, ResumeMode.ofCode?_code]

theorem takes_line {line : Int} (hfits : fitsInt64 line = true) :
    Takes (Format.optional Format.int64) (.int line) (some line) := by
  have hrange : -0x8000000000000000 ≤ line ∧ line ≤ 0x7fffffffffffffff := by
    simp only [fitsInt64, Bool.and_eq_true, decide_eq_true_eq] at hfits
    omega
  exact takes_optional (takes_integer "i64" (by decide) (by decide) hrange) (by simp [int])

theorem takes_variables {members : List (String × Json)} (hheld : HeldMembers members) :
    Takes variablesDecoder (.object members)
      (VariableMap.ofJson (.object (sortMembers (rereadMembers members)))) :=
  takes_map _ (takes_optional (@takes_anything (.object members) hheld) (by simp))

theorem takes_reply {context : SimulatedContext} (hheld : context.Held) :
    Takes decoder context.reply context.reread.runState := by
  obtain ⟨info, mode, snapshot, postedModes, infoRequests, polls⟩ := context
  cases snapshot with
  | none => exact takes_record _ _ (.cons rfl rfl (takes_map _ (takes_mode mode)) (.nil _ _)) rfl
  | some snapshot =>
      have hsnapshot := hheld snapshot rfl
      rw [SimulatedContext.reply_eq_object rfl]
      exact takes_record _ _
        (.cons rfl rfl (takes_map _ (takes_text snapshot.file)) <|
        .cons rfl rfl (takes_map _ (takes_line hsnapshot.line)) <|
        .cons rfl rfl (takes_map _ (takes_variables hsnapshot.globalVariables)) <|
        .cons rfl rfl (takes_map _ (takes_variables hsnapshot.localVariables)) <|
        .cons rfl rfl (takes_map _ (takes_mode mode)) <|
        .cons rfl rfl (takes_map _ (takes_variables hsnapshot.upvalueVariables)) <|
        .nil _ _) rfl

end RunState

theorem ResourceInfo.takes_infoReply (context : SimulatedContext) :
    Takes decoder context.infoReply context.resource := by
  obtain ⟨info, mode, snapshot, postedModes, infoRequests, polls⟩ := context
  cases info with
  | none => exact takes_record _ _ (.nil _ _) rfl
  | some started =>
      obtain ⟨name, path⟩ := started
      have hreply : ofMembers [("resource_name", .string name), ("resource_path", .string path)] =
          .object [("resource_name", .string name), ("resource_path", .string path)] := by
        simp +decide only [ofMembers, sortMembers, List.foldl_cons, List.foldl_nil, insertMember,
          if_false]
      change Takes decoder (ofMembers [("resource_name", .string name),
        ("resource_path", .string path)]) _
      rw [hreply]
      exact takes_record _ _ (.cons rfl rfl (takes_map _ (takes_text name)) <|
        .cons rfl rfl (takes_map _ (takes_text path)) <| .nil _ _) rfl

theorem EvalResult.takes_result (result : String) :
    Takes EvalResult.decoder (.ofMembers [("eval_result", .string result)])
      { text := some result } :=
  takes_record _ _ (.cons rfl rfl (takes_map _ (takes_text result)) (.nil _ _)) rfl

end Takes

/-! ## Exchanges -/

/-- The reply of an endpoint that does what it is asked is decoded whatever it says. -/
theorem BackendClient.decoded_ok {α : Type} (decoder : TextDecoder α) (call : BackendCall)
    (body : Json) : decoded decoder call (.ok (SimulatedReply.ok body).sent) =
      match decoder.decode body.bytes with
      | .ok value => .ok value
      | .error failure => .error (.decode call.path (failure.message body.bytes)) := rfl

namespace SimulatedBackend

/-- What the backend has to show can be held. -/
def Held (backend : SimulatedBackend) : Prop := ∀ suffix, (backend.context suffix).Held

variable {backend : SimulatedBackend}

theorem nesting_infoReply_le (context : SimulatedContext) :
    context.infoReply.nesting ≤ nestingLimit := by
  refine nesting_ofMembers_le ?_
  cases context.info with
  | none => simp
  | some started =>
      exact List.forall_mem_cons.mpr ⟨rfl, List.forall_mem_singleton.mpr rfl⟩

theorem tells_info (suffix : String) : (BackendCall.info suffix).Tells backend
    ((BackendCall.info suffix).answer
      (.ok (SimulatedReply.ok (backend.context suffix).infoReply).sent)) := by
  have hdecode := (ResourceInfo.takes_infoReply (backend.context suffix)).decode
    (nesting_infoReply_le _)
  refine congrArg BackendAnswer.info ?_
  rw [BackendClient.info, BackendClient.decoded_ok, hdecode]

/-- A run state is read unless its tables are too deep. -/
theorem tells_runState {suffix : String} (hheld : (backend.context suffix).Held) :
    (BackendCall.runState suffix).Tells backend ((BackendCall.runState suffix).answer
      (.ok (SimulatedReply.ok (backend.context suffix).reply).sent)) := by
  rw [BackendCall.answer, BackendClient.runState, BackendClient.decoded_ok, BackendCall.Tells]
  split
  · next hnesting => rw [(RunState.takes_reply hheld).decode hnesting]
  · next hdeep =>
      obtain ⟨failure, hdecode⟩ :=
        (RunState.decodes_reply (backend.context suffix)).refused (Nat.lt_of_not_le hdeep)
      rw [hdecode]
      exact ⟨_, rfl⟩

theorem tells_evalResult : BackendCall.evalResult.Tells backend
    (BackendCall.evalResult.answer (.ok backend.getEvalResult.1.sent)) := by
  rw [BackendCall.Tells, getEvalResult]
  cases backend.evalResult with
  | none => rfl
  | some result =>
      have hdecode := (EvalResult.takes_result result).decode
        (nesting_ofMembers_le (List.forall_mem_singleton.mpr rfl))
      refine congrArg BackendAnswer.result ?_
      rw [BackendClient.evalResult, BackendClient.decoded_ok, hdecode]
      rfl

/-- A working backend does what a call is for, and its reply tells what there is to tell. -/
theorem serve_eq (hworks : backend.Works) (hheld : backend.Held) {made : BackendCall}
    (hsendable : made.Sendable) :
    (backend.serve made).2 = made.effect backend ∧
      made.Tells backend (made.answer (.ok (backend.serve made).1.sent)) := by
  cases made with
  | info suffix =>
      have hserve : backend.serve (.info suffix) = backend.getInfo suffix :=
        (serve_of_works hworks _ _ (path_info suffix)).trans
          (getEndpoint_info hsendable)
      rw [hserve]
      exact ⟨rfl, tells_info suffix⟩
  | runState suffix =>
      have hserve : backend.serve (.runState suffix) = backend.getResumeMode suffix :=
        (serve_of_works hworks _ _ (path_runState suffix)).trans
          (getEndpoint_resumeMode hsendable)
      rw [hserve]
      exact ⟨rfl, tells_runState (hheld suffix)⟩
  | setResumeMode suffix mode =>
      have hserve : backend.serve (.setResumeMode suffix mode) =
          backend.postResumeMode suffix (.ofMembers [("resume_mode", .nat mode.code)]) :=
        (serve_of_works hworks _ _ (path_setResumeMode suffix mode)).trans
          (postEndpoint_resumeMode hsendable _)
      rw [hserve, postResumeMode_mode]
      exact ⟨rfl, rfl⟩
  | setBreakpoint file line =>
      have hserve : backend.serve (.setBreakpoint file line) = backend.setBreakpoint
          (.ofMembers [("file", .string file), ("line", .int line)]) :=
        serve_of_works hworks (.setBreakpoint file line) "set_breakpoint" rfl
      have hfits : fitsInt64 line = true := hsendable
      rw [hserve, setBreakpoint, placeOf?_body, if_pos hfits]
      exact ⟨rfl, rfl⟩
  | clearBreakpoints =>
      have hserve : backend.serve .clearBreakpoints = backend.clearBreakpoints :=
        serve_of_works hworks .clearBreakpoints "clear_breakpoints" rfl
      rw [hserve]
      exact ⟨rfl, rfl⟩
  | setPendingEval expression =>
      have hserve : backend.serve (.setPendingEval expression) = backend.postPendingEval
          (.ofMembers [("pending_eval", .string expression)]) :=
        serve_of_works hworks (.setPendingEval expression) "set_pending_eval" rfl
      rw [hserve, postPendingEval, textMember?_of_single]
      exact ⟨rfl, rfl⟩
  | evalResult =>
      have hserve : backend.serve .evalResult = backend.getEvalResult :=
        serve_of_works hworks .evalResult "get_eval_result" rfl
      rw [hserve]
      refine ⟨?_, tells_evalResult⟩
      rw [getEvalResult, BackendCall.effect]
      cases hresult : backend.evalResult with
      | none =>
          change backend = { backend with evalResult := none }
          rw [← hresult]
      | some result => rfl
  | serverCommand command =>
      rw [serve_serverCommand, if_neg (by simp [hworks.available]), postCommand,
        textMember?_of_single]
      exact ⟨rfl, rfl⟩

/-- The whole way: a call is made, answered and read as the plain operation. -/
theorem exchange_eq (port : Option UInt16) (hworks : backend.Works) (hheld : backend.Held)
    {made : BackendCall} (hsendable : made.Sendable) :
    (exchange (url port) made backend).2 = made.effect backend ∧
      made.Tells backend (exchange (url port) made backend).1 := by
  obtain ⟨target, htarget, hpath⟩ := exchangeUrl_url port hsendable
  have hhandle : backend.handle made.method.name made.path (Bench.bodyBytes made.body?) =
      backend.serve made := by
    cases hbody : made.body? with
    | none =>
        simp only [serve, hbody, Bench.bodyBytes, handle, List.isEmpty_nil, if_true,
          Option.getD_none]
    | some value =>
        rw [Bench.bodyBytes, handle_of_parse (BackendCall.parse_body hsendable value hbody), serve,
          hbody, Option.getD_some]
  simp only [exchange, htarget, hpath, hhandle]
  exact serve_eq hworks hheld hsendable

end SimulatedBackend

end DebugBridge
