import DebugBridge.Proofs.Backend.Breakpoints
import DebugBridge.Proofs.Decode.Printed

/-!
# Snapshots of the backend

What a poll reads off a context of the backend, and which calls leave that alone.
-/

namespace DebugBridge

open Json

namespace PauseSnapshot

/-- The snapshot with its tables read back. -/
def reread (snapshot : PauseSnapshot) : PauseSnapshot :=
  { snapshot with
    localVariables := sortMembers (rereadMembers snapshot.localVariables)
    upvalueVariables := sortMembers (rereadMembers snapshot.upvalueVariables)
    globalVariables := sortMembers (rereadMembers snapshot.globalVariables) }

/-- Reading leaves the tables alone. -/
structure Legible (snapshot : PauseSnapshot) : Prop where
  localVariables : (Json.object snapshot.localVariables).Legible
  upvalueVariables : (Json.object snapshot.upvalueVariables).Legible
  globalVariables : (Json.object snapshot.globalVariables).Legible

theorem sortMembers_rereadMembers {members : List (String × Json)}
    (hlegible : (Json.object members).Legible) : sortMembers (rereadMembers members) = members := by
  rw [rereadMembers_of_legible members hlegible.2, sortMembers_of_ascending hlegible.1]

theorem reread_of_legible {snapshot : PauseSnapshot} (hlegible : snapshot.Legible) :
    snapshot.reread = snapshot := by
  rw [reread, sortMembers_rereadMembers hlegible.localVariables,
    sortMembers_rereadMembers hlegible.upvalueVariables,
    sortMembers_rereadMembers hlegible.globalVariables]

/-- The run state that a snapshot tells of. -/
def runState (mode : ResumeMode) (snapshot : PauseSnapshot) : RunState where
  mode := mode
  currentFile := some snapshot.file
  currentLine := some snapshot.line
  localVariables := VariableMap.ofJson (.object snapshot.localVariables)
  upvalueVariables := VariableMap.ofJson (.object snapshot.upvalueVariables)
  globalVariables := VariableMap.ofJson (.object snapshot.globalVariables)

end PauseSnapshot

namespace SimulatedContext

/-- What the backend has to tell of a context. -/
def runState (context : SimulatedContext) : RunState :=
  match context.snapshot with
  | some snapshot => snapshot.runState context.mode
  | none => { mode := context.mode }

/-- Reading leaves the snapshot alone, if there is one. -/
def Legible (context : SimulatedContext) : Prop :=
  ∀ snapshot ∈ context.snapshot, snapshot.Legible

theorem mode_runState (context : SimulatedContext) : context.runState.mode = context.mode := by
  unfold runState
  split
  · rfl
  · rfl

/-- The context with its snapshot read back. -/
def reread (context : SimulatedContext) : SimulatedContext :=
  { context with snapshot := context.snapshot.map PauseSnapshot.reread }

theorem reread_of_legible {context : SimulatedContext} (hlegible : context.Legible) :
    context.reread = context := by
  obtain ⟨info, mode, snapshot, postedModes, infoRequests, polls⟩ := context
  cases snapshot with
  | none => rfl
  | some snapshot =>
      have hsnapshot : snapshot.reread = snapshot :=
        PauseSnapshot.reread_of_legible (hlegible snapshot rfl)
      simp only [reread, Option.map_some, hsnapshot]

/-- The reply to a poll. -/
def reply (context : SimulatedContext) : Json :=
  .ofMembers (("resume_mode", .nat context.mode.code) ::
    match context.snapshot with
    | some snapshot => snapshot.members
    | none => [])

theorem reply_eq_object {context : SimulatedContext} {snapshot : PauseSnapshot}
    (hsnapshot : context.snapshot = some snapshot) :
    context.reply = .object [
      ("current_file", .string snapshot.file),
      ("current_line", .int snapshot.line),
      ("global_variables", .object snapshot.globalVariables),
      ("local_variables", .object snapshot.localVariables),
      ("resume_mode", .nat context.mode.code),
      ("upvalue_variables", .object snapshot.upvalueVariables)] := by
  rw [reply, hsnapshot]
  simp +decide only [PauseSnapshot.members, ofMembers, sortMembers, List.foldl_cons,
    List.foldl_nil, insertMember, if_true, if_false]

end SimulatedContext

namespace RunState

open TextDecoder

theorem decodes_mode (mode : ResumeMode) :
    Decodes ResumeMode.decoder (.nat mode.code) mode := by
  have hbyte : Decodes Format.byte (.nat mode.code) mode.code :=
    decodes_map Int.toNat (decodes_integer _ _ _ _)
  refine decodes_refine hbyte ?_
  rw [ResumeMode.ofCode, ResumeMode.ofCode?_code]

theorem decodes_file (file : String) :
    Decodes (Format.optional Format.string) (.string file) (some file) :=
  decodes_optional (decodes_string file) (by simp)

theorem decodes_line (line : Int) :
    Decodes (Format.optional Format.int64) (.int line) (some line) :=
  decodes_optional (decodes_integer _ _ _ line) (by simp [Json.int])

theorem decodes_variables (members : List (String × Json)) :
    Decodes variablesDecoder (.object members)
      (VariableMap.ofJson (.object (sortMembers (rereadMembers members)))) :=
  decodes_map _ (decodes_optional (decodes_anything (.object members)) (by simp))

/-- A poll reads what the backend has to tell, up to the numbers in it. -/
theorem decodes_reply (context : SimulatedContext) :
    Decodes decoder context.reply context.reread.runState := by
  obtain ⟨info, mode, snapshot, postedModes, infoRequests, polls⟩ := context
  cases snapshot with
  | none =>
      exact decodes_record (.cons rfl (decodes_map _ (decodes_mode mode)) (.nil _))
  | some snapshot =>
      rw [SimulatedContext.reply_eq_object rfl]
      exact decodes_record
        (.cons rfl (decodes_map _ (decodes_file snapshot.file)) <|
        .cons rfl (decodes_map _ (decodes_line snapshot.line)) <|
        .cons rfl (decodes_map _ (decodes_variables snapshot.globalVariables)) <|
        .cons rfl (decodes_map _ (decodes_variables snapshot.localVariables)) <|
        .cons rfl (decodes_map _ (decodes_mode mode)) <|
        .cons rfl (decodes_map _ (decodes_variables snapshot.upvalueVariables)) <|
        .nil _)

end RunState

/-- A reply is read only if it tells of success. -/
theorem BackendClient.isSuccess_of_decoded {α : Type} {decoder : TextDecoder α} {call : BackendCall}
    {reply : HttpReply} {value : α} (hdecoded : decoded decoder call (.ok reply) = .ok value) :
    isSuccess reply.status = true := by
  simp only [decoded, bind, Except.bind] at hdecoded
  split at hdecoded
  · cases hdecoded
  · next hstatus =>
      have hgood : reply.status = 200 := by
        by_contra hother
        simp [hother] at hstatus
      rw [hgood]
      rfl

namespace SimulatedBackend

variable {backend : SimulatedBackend} {suffix : String}

/-! ## Contexts -/

@[simp]
theorem context_putContext (backend : SimulatedBackend) (suffix other : String)
    (context : SimulatedContext) :
    (backend.putContext suffix context).context other =
      if other = suffix then context else backend.context other := by
  rw [SimulatedBackend.context, putContext, lookup_insertMember]
  split
  · rfl
  · rfl

/-- A change leaves alone what the backend has to tell of a context. -/
def Keeps (suffix : String) (before after : SimulatedBackend) : Prop :=
  (after.context suffix).mode = (before.context suffix).mode ∧
    (after.context suffix).snapshot = (before.context suffix).snapshot

theorem Keeps.refl (suffix : String) (backend : SimulatedBackend) : Keeps suffix backend backend :=
  ⟨rfl, rfl⟩

theorem Keeps.trans {first second third : SimulatedBackend} (hfirst : Keeps suffix first second)
    (hsecond : Keeps suffix second third) : Keeps suffix first third :=
  ⟨hsecond.1.trans hfirst.1, hsecond.2.trans hfirst.2⟩

theorem Keeps.runState {before after : SimulatedBackend} (hkeeps : Keeps suffix before after) :
    (after.context suffix).reread.runState = (before.context suffix).reread.runState := by
  rw [SimulatedContext.runState, SimulatedContext.runState, SimulatedContext.reread,
    SimulatedContext.reread, hkeeps.1, hkeeps.2]

/-- A context that is put back with other counts tells what it told before. -/
theorem keeps_putContext {other : String} {context : SimulatedContext}
    (hcontext : suffix = other → context.mode = (backend.context other).mode ∧
      context.snapshot = (backend.context other).snapshot) :
    Keeps suffix backend (backend.putContext other context) := by
  unfold Keeps
  rw [context_putContext]
  split
  · next hsuffix =>
      rw [hsuffix]
      exact hcontext hsuffix
  · exact ⟨rfl, rfl⟩

theorem suffixOf?_eq_some {name endpoint : String}
    (hfound : suffixOf? name endpoint = some suffix) : endpoint = name ++ suffix := by
  have hsame := List.find?_some hfound
  exact (beq_iff_eq.mp hsame).symm

theorem suffixOf?_eq_none {name endpoint : String} (hstart : ¬ name.toList <+: endpoint.toList) :
    suffixOf? name endpoint = none := by
  refine List.find?_eq_none.mpr fun other _ hsame => hstart ?_
  rw [← beq_iff_eq.mp hsame, String.toList_append]
  exact List.prefix_append _ _

/-- The endpoints of one name are none of another name. -/
theorem suffixOf?_of_ne {name other : String} (hlength : name.length ≤ other.length)
    (hother : ¬ name.toList <+: other.toList) (suffix : String) :
    suffixOf? name (other ++ suffix) = none := by
  refine suffixOf?_eq_none fun hstart => hother ?_
  rw [String.toList_append] at hstart
  exact List.prefix_of_prefix_length_le hstart (List.prefix_append _ _) hlength

/-- An endpoint with a suffix is one of the contexts or none at all. -/
theorem suffixOf?_append (name suffix : String) :
    suffixOf? name (name ++ suffix) = some suffix ∨ suffixOf? name (name ++ suffix) = none := by
  cases hfound : suffixOf? name (name ++ suffix) with
  | none => exact .inr rfl
  | some other =>
      have hsame := String.append_right_inj name |>.mp (suffixOf?_eq_some hfound)
      exact .inl (congrArg some hsame.symm)

/-! ## Requests -/

theorem keeps_getEndpoint (backend : SimulatedBackend) (endpoint : String) :
    Keeps suffix backend (backend.getEndpoint endpoint).2 := by
  unfold getEndpoint
  split
  · exact keeps_putContext fun _ => ⟨rfl, rfl⟩
  · exact keeps_putContext fun _ => ⟨rfl, rfl⟩
  · split
    · exact .refl suffix backend
    · exact .refl suffix backend
    · exact .refl suffix backend
    · unfold getEvalResult
      split
      · exact .refl suffix backend
      · exact .refl suffix backend
    · exact .refl suffix backend

theorem keeps_postEndpoint {endpoint : String} (hother : endpoint ≠ "set_resume_mode" ++ suffix)
    (body : Json) : Keeps suffix backend (backend.postEndpoint endpoint body).2 := by
  unfold postEndpoint
  split
  · unfold postInfo
    split
    · exact keeps_putContext fun _ => ⟨rfl, rfl⟩
    · exact .refl suffix backend
  · next other _ hfound =>
      unfold postResumeMode
      split
      · refine keeps_putContext fun hsame => ?_
        rw [hsame] at hother
        exact absurd (suffixOf?_eq_some hfound) hother
      · exact .refl suffix backend
  · split
    · unfold setBreakpoint
      split
      · exact .refl suffix backend
      · exact .refl suffix backend
    · unfold removeBreakpoint
      split
      · exact .refl suffix backend
      · exact .refl suffix backend
    · exact .refl suffix backend
    · unfold postPendingEval
      split
      · exact .refl suffix backend
      · exact .refl suffix backend
    · unfold postEvalResult
      split
      · exact .refl suffix backend
      · exact .refl suffix backend
    · exact .refl suffix backend

/-- Only a posted mode changes what the backend has to tell of a context. -/
theorem keeps_respond {method path : String}
    (hother : method = "POST" → debugEndpoint? path ≠ some ("set_resume_mode" ++ suffix))
    (body : Json) : Keeps suffix backend (backend.respond method path body).2 := by
  unfold respond
  split
  · exact .refl suffix backend
  · split
    · unfold postCommand
      split
      · exact .refl suffix backend
      · exact .refl suffix backend
    · split
      · exact .refl suffix backend
      · next endpoint hendpoint =>
          split
          · exact .refl suffix backend
          · split
            · exact keeps_getEndpoint backend endpoint
            · split
              · next hpost =>
                  rw [hendpoint] at hother
                  exact keeps_postEndpoint (fun hsame => hother hpost (congrArg some hsame)) body
              · exact .refl suffix backend

/-! ## Calls -/

theorem get_ne_post : HttpMethod.get.name ≠ "POST" := by decide

theorem keeps_serve {made : BackendCall} (hother : ∀ mode, made ≠ .setResumeMode suffix mode) :
    Keeps suffix backend (backend.serve made).2 := by
  refine keeps_respond (fun hpost => ?_) _
  cases made with
  | setResumeMode other mode =>
      rw [path_setResumeMode, debugEndpoint?_append]
      intro hsame
      have hsuffix : other = suffix := String.append_right_inj _ |>.mp (Option.some.inj hsame)
      exact hother mode (hsuffix ▸ rfl)
  | setBreakpoint file line =>
      have hpath : (BackendCall.setBreakpoint file line).path =
          debugPath ++ "/" ++ "set_breakpoint" := rfl
      rw [hpath, debugEndpoint?_append]
      exact fun hsame => append_ne (by decide) suffix (Option.some.inj hsame).symm
  | setPendingEval expression =>
      have hpath : (BackendCall.setPendingEval expression).path =
          debugPath ++ "/" ++ "set_pending_eval" := rfl
      rw [hpath, debugEndpoint?_append]
      exact fun hsame => append_ne (by decide) suffix (Option.some.inj hsame).symm
  | serverCommand command =>
      have hnone : debugEndpoint? (BackendCall.serverCommand command).path = none := by
        change debugEndpoint? "/MTAServer/command" = none
        decide
      rw [hnone]
      exact Option.some_ne_none _ |>.symm
  | info other => exact absurd hpost get_ne_post
  | runState other => exact absurd hpost get_ne_post
  | clearBreakpoints => exact absurd hpost get_ne_post
  | evalResult => exact absurd hpost get_ne_post

/-- A poll that is granted is answered with what the backend has to tell. -/
theorem serve_runState (hgrants : backend.grants (.runState suffix) = true) :
    (backend.serve (.runState suffix)).1 = .ok (backend.context suffix).reply := by
  have hserve : backend.serve (.runState suffix) =
      backend.getEndpoint ("get_resume_mode" ++ suffix) :=
    serve_of_grants (path_runState suffix) hgrants
  have hinfo : suffixOf? "get_info" ("get_resume_mode" ++ suffix) = none :=
    suffixOf?_of_ne (by decide) (by decide) suffix
  rcases suffixOf?_append "get_resume_mode" suffix with hfound | hnone
  · simp only [hserve, getEndpoint, hinfo, hfound]
    rfl
  · have hrefused : backend.getEndpoint ("get_resume_mode" ++ suffix) =
        (.refusal 404, backend) := by
      simp only [getEndpoint, hinfo, hnone]
      -- No other endpoint begins like that.
      split
      · next hsame => exact absurd hsame (append_ne (by decide) suffix)
      · next hsame => exact absurd hsame (append_ne (by decide) suffix)
      · next hsame => exact absurd hsame (append_ne (by decide) suffix)
      · next hsame => exact absurd hsame (append_ne (by decide) suffix)
      · rfl
    rw [grants, hserve, hrefused] at hgrants
    cases hgrants

end SimulatedBackend

end DebugBridge
