import DebugBridge.Backend.Client
import DebugBridge.Backend.Simulated
import DebugBridge.Proofs.Json.Members

/-!
# Breakpoints of the backend

Which calls write the breakpoints that the backend keeps, and what it then has.  A call that is
refused writes nothing.
-/

namespace DebugBridge

/-- The call writes breakpoints. -/
def BackendCall.WritesBreakpoints : BackendCall → Prop
  | .setBreakpoint _ _ => True
  | .clearBreakpoints => True
  | _ => False

/-- The call leaves the breakpoints of the backend alone. -/
def BackendCall.KeepsBreakpoints (made : BackendCall) : Prop := ¬ made.WritesBreakpoints

namespace SimulatedBackend

/-- Gives a call to the backend. -/
def serve (backend : SimulatedBackend) (made : BackendCall) : SimulatedReply × SimulatedBackend :=
  backend.respond made.method.name made.path (made.body?.getD .null)

/-- The backend does what a call asks for. -/
def grants (backend : SimulatedBackend) (made : BackendCall) : Bool :=
  BackendClient.isSuccess (backend.serve made).1.status

variable {backend : SimulatedBackend}

/-! ## Refusals -/

/-- The backend is as before unless the request is done. -/
def KeptIfRefused (backend : SimulatedBackend) (out : SimulatedReply × SimulatedBackend) : Prop :=
  out.1.status ≠ 200 → out.2 = backend

theorem KeptIfRefused.refusal (status : Nat) :
    KeptIfRefused backend (.refusal status, backend) := fun _ => rfl

/-- A request that is done is not refused. -/
theorem KeptIfRefused.ok (body : Json) (after : SimulatedBackend) :
    KeptIfRefused backend (.ok body, after) := fun hrefused => absurd rfl hrefused

section Refusals

variable (backend : SimulatedBackend)

theorem keptIfRefused_postInfo (suffix : String) (body : Json) :
    KeptIfRefused backend (backend.postInfo suffix body) := by
  unfold postInfo
  split
  · exact .ok body _
  · exact .refusal 400

theorem keptIfRefused_postResumeMode (suffix : String) (body : Json) :
    KeptIfRefused backend (backend.postResumeMode suffix body) := by
  unfold postResumeMode
  split
  · exact .ok _ _
  · exact .refusal 400

theorem keptIfRefused_setBreakpoint (body : Json) :
    KeptIfRefused backend (backend.setBreakpoint body) := by
  unfold setBreakpoint
  split
  · exact .ok body _
  · exact .refusal 400

theorem keptIfRefused_removeBreakpoint (body : Json) :
    KeptIfRefused backend (backend.removeBreakpoint body) := by
  unfold removeBreakpoint
  split
  · exact .ok body _
  · exact .refusal 400

theorem keptIfRefused_postPendingEval (body : Json) :
    KeptIfRefused backend (backend.postPendingEval body) := by
  unfold postPendingEval
  split
  · exact .ok body _
  · exact .refusal 400

theorem keptIfRefused_postEvalResult (body : Json) :
    KeptIfRefused backend (backend.postEvalResult body) := by
  unfold postEvalResult
  split
  · exact .ok body _
  · exact .refusal 400

theorem keptIfRefused_getEvalResult : KeptIfRefused backend backend.getEvalResult := by
  unfold getEvalResult
  split
  · exact .ok _ _
  · exact .refusal 404

theorem keptIfRefused_postCommand (body : Json) :
    KeptIfRefused backend (backend.postCommand body) := by
  unfold postCommand
  split
  · exact .ok body _
  · exact .refusal 400

theorem keptIfRefused_getEndpoint (endpoint : String) :
    KeptIfRefused backend (backend.getEndpoint endpoint) := by
  unfold getEndpoint
  split
  · exact .ok _ _
  · exact .ok _ _
  · split
    · exact .ok _ _
    · exact .ok _ _
    · exact .ok _ _
    · exact keptIfRefused_getEvalResult backend
    · exact .refusal 404

theorem keptIfRefused_postEndpoint (endpoint : String) (body : Json) :
    KeptIfRefused backend (backend.postEndpoint endpoint body) := by
  unfold postEndpoint
  split
  · exact keptIfRefused_postInfo backend _ body
  · exact keptIfRefused_postResumeMode backend _ body
  · split
    · exact keptIfRefused_setBreakpoint backend body
    · exact keptIfRefused_removeBreakpoint backend body
    · exact .ok _ _
    · exact keptIfRefused_postPendingEval backend body
    · exact keptIfRefused_postEvalResult backend body
    · exact .refusal 404

/-- A request that is refused changes nothing. -/
theorem keptIfRefused_respond (method path : String) (body : Json) :
    KeptIfRefused backend (backend.respond method path body) := by
  unfold respond
  split
  · exact .refusal 503
  · split
    · exact keptIfRefused_postCommand backend body
    · split
      · exact .refusal 404
      · next endpoint _ =>
          split
          · exact .refusal 500
          · split
            · exact keptIfRefused_getEndpoint backend endpoint
            · split
              · exact keptIfRefused_postEndpoint backend endpoint body
              · exact .refusal 404

end Refusals

/-! ## Endpoints -/

theorem debugEndpoint?_append (endpoint : String) :
    debugEndpoint? (debugPath ++ "/" ++ endpoint) = some endpoint := by
  have hpath : (debugPath ++ "/" ++ endpoint).toList = "/MTADebug/".toList ++ endpoint.toList := by
    simp [debugPath, String.toList_append]
  have hstart : "/MTADebug/".toList.isPrefixOf ("/MTADebug/".toList ++ endpoint.toList) = true :=
    List.isPrefixOf_iff_prefix.mpr (List.prefix_append _ _)
  rw [debugEndpoint?, hpath]
  simp only [hstart, if_true, List.drop_left, String.ofList_toList]

/-- Of the requests that read, only the one that clears writes breakpoints. -/
theorem breakpoints_getEndpoint {endpoint : String} (hclear : endpoint ≠ "clear_breakpoints") :
    (backend.getEndpoint endpoint).2.breakpoints = backend.breakpoints := by
  unfold getEndpoint
  split
  · rfl
  · rfl
  · split
    · rfl
    · exact absurd rfl hclear
    · rfl
    · unfold getEvalResult
      split
      · rfl
      · rfl
    · rfl

theorem breakpoints_postEndpoint {endpoint : String} {body : Json}
    (hset : endpoint ≠ "set_breakpoint") (hremove : endpoint ≠ "remove_breakpoint")
    (hclear : endpoint ≠ "clear_breakpoints") :
    (backend.postEndpoint endpoint body).2.breakpoints = backend.breakpoints := by
  unfold postEndpoint
  split
  · unfold postInfo
    split
    · rfl
    · rfl
  · unfold postResumeMode
    split
    · rfl
    · rfl
  · split
    · exact absurd rfl hset
    · exact absurd rfl hremove
    · exact absurd rfl hclear
    · unfold postPendingEval
      split
      · rfl
      · rfl
    · unfold postEvalResult
      split
      · rfl
      · rfl
    · rfl

/-- What a request to a debug endpoint comes to. -/
theorem respond_debug (method : HttpMethod) (endpoint : String) (body : Json) :
    backend.respond method.name (debugPath ++ "/" ++ endpoint) body =
      if backend.unavailable then (.refusal 503, backend)
      else if backend.failing.contains endpoint then (.refusal 500, backend)
      else match method with
        | .get => backend.getEndpoint endpoint
        | .post => backend.postEndpoint endpoint body := by
  have hcommand : debugPath ++ "/" ++ endpoint ≠ "/MTAServer/command" := by
    intro hsame
    have hchars := congrArg String.toList hsame
    simp [debugPath] at hchars
  unfold respond
  rw [debugEndpoint?_append]
  cases method with
  | get => simp [HttpMethod.name]
  | post => simp [HttpMethod.name, hcommand]

theorem breakpoints_get {endpoint : String} (hclear : endpoint ≠ "clear_breakpoints")
    (body : Json) :
    (backend.respond HttpMethod.get.name (debugPath ++ "/" ++ endpoint) body).2.breakpoints =
      backend.breakpoints := by
  rw [respond_debug]
  split
  · rfl
  · split
    · rfl
    · exact breakpoints_getEndpoint hclear

theorem breakpoints_post {endpoint : String} (hset : endpoint ≠ "set_breakpoint")
    (hremove : endpoint ≠ "remove_breakpoint") (hclear : endpoint ≠ "clear_breakpoints")
    (body : Json) :
    (backend.respond HttpMethod.post.name (debugPath ++ "/" ++ endpoint) body).2.breakpoints =
      backend.breakpoints := by
  rw [respond_debug]
  split
  · rfl
  · split
    · rfl
    · exact breakpoints_postEndpoint hset hremove hclear

theorem append_ne {name other : String} (hstart : ¬ name.toList <+: other.toList)
    (suffix : String) : name ++ suffix ≠ other := by
  rintro rfl
  rw [String.toList_append] at hstart
  exact hstart (List.prefix_append _ _)

theorem debugPath_append (name suffix : String) :
    debugPath ++ ("/" ++ name) ++ suffix = debugPath ++ "/" ++ (name ++ suffix) := by
  rw [String.append_assoc, String.append_assoc, String.append_assoc]

/-! ## Calls -/

theorem path_info (suffix : String) :
    (BackendCall.info suffix).path = debugPath ++ "/" ++ ("get_info" ++ suffix) :=
  debugPath_append "get_info" suffix

theorem path_runState (suffix : String) :
    (BackendCall.runState suffix).path = debugPath ++ "/" ++ ("get_resume_mode" ++ suffix) :=
  debugPath_append "get_resume_mode" suffix

theorem path_setResumeMode (suffix : String) (mode : ResumeMode) :
    (BackendCall.setResumeMode suffix mode).path =
      debugPath ++ "/" ++ ("set_resume_mode" ++ suffix) :=
  debugPath_append "set_resume_mode" suffix

theorem serve_serverCommand (command : String) :
    backend.serve (.serverCommand command) =
      if backend.unavailable then (.refusal 503, backend)
      else backend.postCommand (.ofMembers [("command", .string command)]) := by
  have hcommand : ((BackendCall.serverCommand command).path = "/MTAServer/command" &&
      (BackendCall.serverCommand command).method.name = "POST") = true := by
    simp [BackendCall.path, BackendCall.method, HttpMethod.name, serverPath]
  rw [serve, respond, if_pos hcommand]
  rfl

/-- A call that is not about breakpoints leaves them alone. -/
theorem breakpoints_serve_of_keeps {made : BackendCall} (hkeeps : made.KeepsBreakpoints) :
    (backend.serve made).2.breakpoints = backend.breakpoints := by
  cases made with
  | info suffix =>
      rw [serve, path_info]
      exact breakpoints_get (append_ne (by decide) suffix) _
  | runState suffix =>
      rw [serve, path_runState]
      exact breakpoints_get (append_ne (by decide) suffix) _
  | setResumeMode suffix mode =>
      rw [serve, path_setResumeMode]
      exact breakpoints_post (append_ne (by decide) suffix) (append_ne (by decide) suffix)
        (append_ne (by decide) suffix) _
  | setPendingEval expression =>
      exact @breakpoints_post backend "set_pending_eval" (by decide) (by decide) (by decide) _
  | evalResult => exact @breakpoints_get backend "get_eval_result" (by decide) _
  | serverCommand command =>
      rw [serve_serverCommand]
      split
      · rfl
      · unfold postCommand
        split
        · rfl
        · rfl
  | setBreakpoint file line => exact absurd trivial hkeeps
  | clearBreakpoints => exact absurd trivial hkeeps

theorem breakpoints_serve_of_refused {made : BackendCall} (hrefused : backend.grants made = false) :
    (backend.serve made).2.breakpoints = backend.breakpoints := by
  have hstatus : (backend.serve made).1.status ≠ 200 := by
    intro hdone
    rw [grants, hdone] at hrefused
    cases hrefused
  rw [serve, keptIfRefused_respond backend _ _ _ hstatus]

/-- What is granted has reached its endpoint. -/
theorem serve_of_grants {made : BackendCall} {endpoint : String}
    (hpath : made.path = debugPath ++ "/" ++ endpoint) (hgrants : backend.grants made = true) :
    backend.serve made = match made.method with
      | .get => backend.getEndpoint endpoint
      | .post => backend.postEndpoint endpoint (made.body?.getD .null) := by
  rw [grants, serve, hpath, respond_debug] at hgrants
  rw [serve, hpath, respond_debug]
  split at hgrants
  · cases hgrants
  · next havailable =>
      rw [if_neg havailable]
      split at hgrants
      · cases hgrants
      · next hworks => rw [if_neg hworks]

theorem breakpoints_serve_clear (hgrants : backend.grants .clearBreakpoints = true) :
    (backend.serve .clearBreakpoints).2.breakpoints = [] := by
  rw [@serve_of_grants backend .clearBreakpoints "clear_breakpoints" rfl hgrants]
  rfl

theorem placeOf?_body (file : String) (line : Int) :
    placeOf? (.ofMembers [("file", .string file), ("line", .int line)]) =
      if Json.fitsInt64 line then some (file, line) else none := by
  have hfile : textMember? (.ofMembers [("file", .string file), ("line", .int line)]) "file" =
      some file := by
    simp [textMember?, Json.sortMembers, Json.string?]
  have hline : ((Json.ofMembers [("file", .string file), ("line", .int line)]).member?
      "line").bind Json.int64? = if Json.fitsInt64 line then some line else none := by
    simp [Json.sortMembers, Json.int, Json.int64?]
  rw [placeOf?, hfile, hline]
  cases Json.fitsInt64 line with
  | true => rfl
  | false => rfl

/-- A line is set as it was asked for, if it is set at all. -/
theorem breakpoints_serve_set {file : String} {line : Int}
    (hgrants : backend.grants (.setBreakpoint file line) = true) :
    (backend.serve (.setBreakpoint file line)).2.breakpoints =
      backend.breakpoints ++ [(file, line)] := by
  have hserve : backend.serve (.setBreakpoint file line) = backend.setBreakpoint
      (.ofMembers [("file", .string file), ("line", .int line)]) :=
    @serve_of_grants backend (.setBreakpoint file line) "set_breakpoint" rfl hgrants
  rw [grants, hserve, setBreakpoint, placeOf?_body] at hgrants
  rw [hserve, setBreakpoint, placeOf?_body]
  cases hfits : Json.fitsInt64 line with
  | true => rfl
  | false =>
      rw [hfits] at hgrants
      cases hgrants

end SimulatedBackend

end DebugBridge
