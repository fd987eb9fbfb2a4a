import DebugBridge.Proofs.Backend.Breakpoints

/-!
# Refused requests

A request that the backend does not do changes nothing.  What is refused on purpose is told by the
state alone: everything during an outage, and all requests to an endpoint that is made to fail,
while no other endpoint notices.
-/

namespace DebugBridge.SimulatedBackend

variable {backend : SimulatedBackend}

/-- The body of a request can be read: there is none, or it is a JSON text. -/
def Readable (body : List UInt8) : Prop := body = [] ∨ ∃ value, Json.parse body = .ok value

theorem handle_of_parse {body : List UInt8} {value : Json} (hbody : Json.parse body = .ok value)
    (backend : SimulatedBackend) (method path : String) :
    backend.handle method path body = backend.respond method path value := by
  have hsome : body.isEmpty = false := by
    cases body with
    | nil => cases hbody
    | cons b rest => rfl
  simp only [handle, hsome, hbody]
  rfl

/-- A readable body is answered as what it says. -/
theorem handle_of_readable {body : List UInt8} (hbody : Readable body) :
    ∃ value, ∀ (backend : SimulatedBackend) (method path : String),
      backend.handle method path body = backend.respond method path value := by
  rcases hbody with rfl | ⟨value, hvalue⟩
  · exact ⟨.null, fun _ _ _ => rfl⟩
  · exact ⟨value, handle_of_parse hvalue⟩

/-- A body that cannot be read is refused before anything else. -/
theorem handle_of_unreadable {body : List UInt8} (hbody : ¬ Readable body)
    (backend : SimulatedBackend) (method path : String) :
    backend.handle method path body = (.refusal 400, backend) := by
  cases body with
  | nil => exact absurd (.inl rfl) hbody
  | cons b rest =>
      cases hparse : Json.parse (b :: rest) with
      | ok value => exact absurd (.inr ⟨value, hparse⟩) hbody
      | error failure =>
          simp only [handle, hparse]
          rfl

theorem keptIfRefused_handle (backend : SimulatedBackend) (method path : String)
    (body : List UInt8) : KeptIfRefused backend (backend.handle method path body) := by
  by_cases hbody : Readable body
  · obtain ⟨value, hhandle⟩ := handle_of_readable hbody
    rw [hhandle]
    exact keptIfRefused_respond backend method path value
  · rw [handle_of_unreadable hbody]
    exact .refusal 400

/-! ## Failing endpoints -/

theorem debugEndpoint?_eq_some_iff {path endpoint : String} :
    debugEndpoint? path = some endpoint ↔ path = debugPath ++ "/" ++ endpoint := by
  constructor
  · intro hfound
    simp only [debugEndpoint?] at hfound
    split at hfound
    · next hstart =>
        obtain ⟨rest, hrest⟩ := List.isPrefixOf_iff_prefix.mp hstart
        rw [← hrest, List.drop_left, Option.some.injEq] at hfound
        apply String.toList_injective
        rw [← hrest, ← hfound]
        simp [debugPath, String.toList_append]
    · cases hfound
  · rintro rfl
    exact debugEndpoint?_append endpoint

/-- An action that works the same whichever endpoints are made to fail. -/
def Blind (action : SimulatedBackend → SimulatedReply × SimulatedBackend) : Prop :=
  ∀ (backend : SimulatedBackend) (failing : List String),
    action { backend with failing } =
      ((action backend).1, { (action backend).2 with failing })

section Blind

theorem blind_refusal (status : Nat) : Blind fun backend => (.refusal status, backend) :=
  fun _ _ => rfl

theorem blind_getInfo (suffix : String) : Blind fun backend => backend.getInfo suffix :=
  fun _ _ => rfl

theorem blind_getResumeMode (suffix : String) : Blind fun backend => backend.getResumeMode suffix :=
  fun _ _ => rfl

theorem blind_postInfo (suffix : String) (body : Json) :
    Blind fun backend => backend.postInfo suffix body := by
  intro backend failing
  simp only [postInfo]
  split <;> rfl

theorem blind_postResumeMode (suffix : String) (body : Json) :
    Blind fun backend => backend.postResumeMode suffix body := by
  intro backend failing
  simp only [postResumeMode]
  split <;> rfl

theorem blind_setBreakpoint (body : Json) : Blind fun backend => backend.setBreakpoint body := by
  intro backend failing
  simp only [setBreakpoint]
  split <;> rfl

theorem blind_removeBreakpoint (body : Json) :
    Blind fun backend => backend.removeBreakpoint body := by
  intro backend failing
  simp only [removeBreakpoint]
  split <;> rfl

theorem blind_postPendingEval (body : Json) :
    Blind fun backend => backend.postPendingEval body := by
  intro backend failing
  simp only [postPendingEval]
  split <;> rfl

theorem blind_postEvalResult (body : Json) : Blind fun backend => backend.postEvalResult body := by
  intro backend failing
  simp only [postEvalResult]
  split <;> rfl

theorem blind_getEvalResult : Blind getEvalResult := by
  intro backend failing
  simp only [getEvalResult]
  split <;> rfl

theorem blind_postCommand (body : Json) : Blind fun backend => backend.postCommand body := by
  intro backend failing
  simp only [postCommand]
  split <;> rfl

theorem blind_getEndpoint (endpoint : String) :
    Blind fun backend => backend.getEndpoint endpoint := by
  unfold getEndpoint
  split
  · exact blind_getInfo _
  · exact blind_getResumeMode _
  · split
    · exact fun _ _ => rfl
    · exact fun _ _ => rfl
    · exact fun _ _ => rfl
    · exact blind_getEvalResult
    · exact blind_refusal 404

theorem blind_postEndpoint (endpoint : String) (body : Json) :
    Blind fun backend => backend.postEndpoint endpoint body := by
  unfold postEndpoint
  split
  · exact blind_postInfo _ body
  · exact blind_postResumeMode _ body
  · split
    · exact blind_setBreakpoint body
    · exact blind_removeBreakpoint body
    · exact fun _ _ => rfl
    · exact blind_postPendingEval body
    · exact blind_postEvalResult body
    · exact blind_refusal 404

end Blind

theorem Blind.failing {action : SimulatedBackend → SimulatedReply × SimulatedBackend}
    (hblind : Blind action) (backend : SimulatedBackend) :
    (action backend).2.failing = backend.failing :=
  congrArg (fun out => out.2.failing) (hblind backend backend.failing)

theorem Blind.setRefusing {action : SimulatedBackend → SimulatedReply × SimulatedBackend}
    (hblind : Blind action) (endpoint : String) (on : Bool) (backend : SimulatedBackend) :
    action (backend.setRefusing endpoint on) =
      ((action backend).1, (action backend).2.setRefusing endpoint on) := by
  have hsame := hblind backend (backend.setRefusing endpoint on).failing
  have hkept : (action backend).2.setRefusing endpoint on =
      { (action backend).2 with failing := (backend.setRefusing endpoint on).failing } := by
    simp only [SimulatedBackend.setRefusing, hblind.failing]
  rw [hkept]
  exact hsame

theorem contains_setRefusing {endpoint other : String} (hother : other ≠ endpoint) (on : Bool)
    (backend : SimulatedBackend) :
    (backend.setRefusing endpoint on).failing.contains other =
      backend.failing.contains other := by
  rw [Bool.eq_iff_iff]
  cases on <;> simp [setRefusing, hother]

/-- Whether an endpoint fails is of no concern to requests elsewhere. -/
theorem respond_setRefusing {endpoint path : String} (hpath : path ≠ debugPath ++ "/" ++ endpoint)
    (on : Bool) (method : String) (body : Json) (backend : SimulatedBackend) :
    (backend.setRefusing endpoint on).respond method path body =
      ((backend.respond method path body).1,
        (backend.respond method path body).2.setRefusing endpoint on) := by
  have houtage : (backend.setRefusing endpoint on).unavailable = backend.unavailable := rfl
  simp only [respond, houtage]
  cases backend.unavailable with
  | true => rfl
  | false =>
      simp only [Bool.false_eq_true, if_false]
      split
      · exact (blind_postCommand body).setRefusing endpoint on backend
      · cases hfound : debugEndpoint? path with
        | none => rfl
        | some other =>
            have hother : other ≠ endpoint := by
              rintro rfl
              exact hpath (debugEndpoint?_eq_some_iff.mp hfound)
            simp only [contains_setRefusing hother]
            split
            · rfl
            · split
              · exact (blind_getEndpoint other).setRefusing endpoint on backend
              · split
                · exact (blind_postEndpoint other body).setRefusing endpoint on backend
                · rfl

theorem handle_setRefusing {endpoint path : String} (hpath : path ≠ debugPath ++ "/" ++ endpoint)
    (on : Bool) (method : String) (body : List UInt8) (backend : SimulatedBackend) :
    (backend.setRefusing endpoint on).handle method path body =
      ((backend.handle method path body).1,
        (backend.handle method path body).2.setRefusing endpoint on) := by
  by_cases hbody : Readable body
  · obtain ⟨value, hhandle⟩ := handle_of_readable hbody
    rw [hhandle, hhandle]
    exact respond_setRefusing hpath on method value backend
  · rw [handle_of_unreadable hbody, handle_of_unreadable hbody]

theorem respond_of_unavailable (hoff : backend.unavailable = true) (method path : String)
    (body : Json) : backend.respond method path body = (.refusal 503, backend) := by
  rw [respond, if_pos hoff]

theorem respond_of_failing {endpoint : String} (hon : backend.unavailable = false)
    (hfailing : endpoint ∈ backend.failing) (method : String) (body : Json) :
    backend.respond method (debugPath ++ "/" ++ endpoint) body = (.refusal 500, backend) := by
  have hcommand : debugPath ++ "/" ++ endpoint ≠ "/MTAServer/command" := by
    intro hsame
    have hchars := congrArg String.toList hsame
    simp [debugPath] at hchars
  simp [respond, hon, hcommand, debugEndpoint?_append, hfailing]

/-- A request that is not done leaves the backend as it was.  During an outage every request that
can be read is refused with 503; otherwise every one to an endpoint that is made to fail is refused
with 500, and it makes no difference to other requests that it fails. -/
theorem refused_requests_change_nothing (backend : SimulatedBackend) (method path : String)
    (body : List UInt8) :
    ((backend.handle method path body).1.status ≠ 200 →
      (backend.handle method path body).2 = backend) ∧
    (Readable body → backend.unavailable = true →
      (backend.handle method path body).1 = .refusal 503) ∧
    (Readable body → backend.unavailable = false →
      ∀ endpoint ∈ backend.failing, path = debugPath ++ "/" ++ endpoint →
        (backend.handle method path body).1 = .refusal 500) ∧
    ∀ endpoint on, path ≠ debugPath ++ "/" ++ endpoint →
      (backend.setRefusing endpoint on).handle method path body =
        ((backend.handle method path body).1,
          (backend.handle method path body).2.setRefusing endpoint on) := by
  refine ⟨keptIfRefused_handle backend method path body, ?_, ?_, ?_⟩
  · intro hbody hoff
    obtain ⟨value, hhandle⟩ := handle_of_readable hbody
    rw [hhandle, respond_of_unavailable hoff]
  · rintro hbody hon endpoint hfailing rfl
    obtain ⟨value, hhandle⟩ := handle_of_readable hbody
    rw [hhandle, respond_of_failing hon hfailing]
  · exact fun endpoint on hpath => handle_setRefusing hpath on method body backend

end DebugBridge.SimulatedBackend
